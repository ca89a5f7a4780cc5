/-!
# Files as they are read

Reading the file at a path gives its bytes or says why there are none. A path names its components
with slashes between them.
-/

namespace BrokerWatch

/-- Why a file gives no bytes. -/
inductive FileFault
  /-- Nothing is there. -/
  | absent
  /-- A file stands where the path needs a directory. -/
  | notDirectory
  /-- A directory is there. -/
  | isDirectory
  /-- The system refuses for another reason, which it words itself. -/
  | refused (reason : String)
  deriving DecidableEq, Repr

def FileFault.message : FileFault → String
  | absent => "No such file or directory (os error 2)"
  | notDirectory => "Not a directory (os error 20)"
  | isDirectory => "Is a directory (os error 21)"
  | refused reason => reason

/-- What reading gives at each path. -/
abbrev Files := String → Except FileFault (List UInt8)

namespace Files

def hasEntry (files : Files) (path : String) : Bool :=
  match files path with
  | .error .absent => false
  | .error .notDirectory => false
  | _ => true

/-- The path of a name in a directory. -/
def within (directory name : String) : String :=
  directory ++ "/" ++ name

end Files

end BrokerWatch
