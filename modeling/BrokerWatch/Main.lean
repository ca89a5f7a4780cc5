import BrokerWatch.Memory.Cgroup
import BrokerWatch.Program

/-!
# The command line

Runs the program on the process's own arguments and environment. A server takes its requests from
standard input, a method and a target on each line, and writes each answer as its status and content;
the end of the input stops it. It has no cluster to talk to, so evaluations find that none replies.
-/

namespace BrokerWatch.Console

open Program

def watched : List String :=
  filterVariable :: Flag.all.map (·.envName) ++ Discovery.Source.all.map (·.name)

def environment : IO Discovery.Environment := do
  let values ← watched.filterMapM fun key => do
    return (← IO.getEnv key).map (key, ·)
  return fun key => values.lookup key

/-- Writes a text and sees it off. -/
def write (output : IO.FS.Stream) (text : String) : IO Unit := do
  output.putStr text
  output.flush

def log (output : IO.FS.Stream) (records : List Logging.Record) : IO Unit :=
  records.forM fun record => write output (record.toJson.render ++ "\n")

def contents (path : String) : IO (Except FileFault (List UInt8)) := do
  try
    return .ok (← IO.FS.readBinFile path).toList
  catch
    | .noFileOrDirectory .. => return .error .absent
    | .inappropriateType .. => return .error .isDirectory
    | e => return .error (.refused (toString e))

/-- What files hold now; of others nothing is known. -/
def filesAt (paths : List String) : IO Files := do
  let held ← paths.mapM fun path => do return (path, ← contents path)
  return fun path => (held.lookup path).getD (.error .absent)

/-- The reader for the machine's own memory files. -/
def memoryReader : IO Memory.Reader := do
  let root := Memory.Version.v2.mount
  let markers := [Files.within root Memory.Version.v2.usageFile,
    Files.within Memory.Version.v1.mount Memory.Version.v1.usageFile]
  return .underRoot (← filesAt markers) root

def reading (reader : Memory.Reader) : IO (Except Failure Memory.Usage) := do
  return reader.read (← filesAt [reader.usagePath, reader.limitPath, reader.tablePath])

/-- Answers requests until there are no more. -/
partial def answer (launch : Launch) (reader : Memory.Reader) (state : Http.State)
    (input output : IO.FS.Stream) : IO Unit := do
  let line ← input.getLine
  if line.isEmpty then return
  match Text.words line.toList with
  | [method, target] =>
    let request : Http.Request := ⟨String.ofList method, String.ofList target⟩
    let state := { state with readings := [← reading reader] }
    let ((response, records), state) := (launch.respond request).run state
    log output records
    if let some response := response then
      write output s!"{response.status}\n{response.body.content}\n"
    answer launch reader state input output
  | _ => answer launch reader state input output

/-- Carries out what the arguments lead to, and gives the code to end with. -/
def run (plan : Plan) : IO UInt32 := do
  let output ← IO.getStdout
  let errors ← IO.getStderr
  match plan with
  | .finish outcome =>
    log output outcome.records
    write output outcome.output
    write errors outcome.errors
    return outcome.code.toUInt32
  | .serve launch =>
    write errors (lines launch.complaints)
    log output launch.opening
    answer launch (← memoryReader) { world := launch.lonely } (← IO.getStdin) output
    log output (launch.closing .terminate)
    return 0

end BrokerWatch.Console

def main (arguments : List String) : IO UInt32 := do
  BrokerWatch.Console.run (BrokerWatch.Program.plan arguments (← BrokerWatch.Console.environment))
