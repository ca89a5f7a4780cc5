import BrokerWatch.Files.Basic
import BrokerWatch.Text.Split

/-!
# Trees of files

A tree of directories with files in them, held in memory. What is written at a path gets the
directories that the path needs.
-/

namespace BrokerWatch.Files

/-- A file, or a directory of named entries. -/
inductive Tree
  | file (bytes : List UInt8)
  | directory (entries : List (String × Tree))

namespace Tree

def empty : Tree := .directory []

def components (path : String) : List String :=
  ((Text.fields '/' path.toList).map String.ofList).filter fun name => name != "" && name != "."

/-- The entry at a path, or why there is none. -/
def entryAt : List String → Tree → Except FileFault Tree
  | [], tree => .ok tree
  | _ :: _, file _ => .error .notDirectory
  | name :: rest, directory entries =>
    match entries.find? (·.1 == name) with
    | some (_, entry) => entryAt rest entry
    | none => .error .absent

def entries : Tree → List (String × Tree)
  | file _ => []
  | directory entries => entries

/-- The tree with an entry at a path changed, where it may be absent before and after. The directories
on the way are made. -/
def change (f : Option Tree → Option Tree) : List String → Option Tree → Option Tree
  | [], entry => f entry
  | name :: rest, entry =>
    let entries := (entry.map (·.entries)).getD []
    let others := entries.filter (·.1 != name)
    match change f rest ((entries.find? (·.1 == name)).map (·.2)) with
    | some inner => some (directory (others ++ [(name, inner)]))
    | none => some (directory others)

def changeAt (tree : Tree) (path : String) (f : Option Tree → Option Tree) : Tree :=
  (change f (components path) (some tree)).getD empty

def write (tree : Tree) (path : String) (bytes : List UInt8) : Tree :=
  tree.changeAt path fun _ => some (file bytes)

/-- The tree with a directory at a path; one that is there keeps its entries. -/
def makeDirectory (tree : Tree) (path : String) : Tree :=
  tree.changeAt path fun
    | some (directory entries) => some (directory entries)
    | _ => some empty

def remove (tree : Tree) (path : String) : Tree :=
  match entryAt (components path) tree with
  | .ok _ => tree.changeAt path fun _ => none
  | .error _ => tree

def files (tree : Tree) : Files := fun path =>
  match entryAt (components path) tree with
  | .ok (file bytes) => .ok bytes
  | .ok (directory _) => .error .isDirectory
  | .error fault => .error fault

end Tree

end BrokerWatch.Files
