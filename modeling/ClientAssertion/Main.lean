/-
**The program.**

Gathers what a command needs from the world, runs it and writes its report.  No request is sent
over a network, so a key set at a URL is always unreachable.
-/

import ClientAssertion.CommandLine.Environment
import ClientAssertion.CommandLine.Run
import Std.Time.DateTime.Timestamp

namespace ClientAssertion.CommandLine

/-- What stands at a path. -/
def stored (path : String) : IO (Except PathError Stored) := do
  match ← (IO.FS.readBinFile path).toBaseIO with
  | .ok octets => return .ok (.file octets.data.toList)
  | .error (.noFileOrDirectory ..) => return .error .absent
  | .error (.inappropriateType _ 20 _) => return .error .notFolder
  | .error (.invalidArgument _ 36 _) => return .error .tooLong
  | .error _ => return .ok .folder

/-- The files with some paths. -/
def filesAt (paths : List String) : IO Files := do
  let known ← paths.mapM fun path => return (path, ← stored path)
  return fun path => (known.lookup path).getD (.error .absent)

/-- The environment of the program. -/
def environment : IO (List (String × String)) := do
  match ← stored "/proc/self/environ" with
  | .ok (.file octets) => return Environment.entries octets
  | _ => return []

/-- The present time. -/
def present : IO Instant := do
  return ⟨(← Std.Time.Timestamp.now).toNanosecondsSinceUnixEpoch.val⟩

/-- Runs the program. -/
def execution (arguments : List String) : IO Report := do
  let environment ← environment
  let surroundings : Surroundings Unit := {
    files := ← filesAt (pathsOf environment arguments)
    environment
    orders := .asGiven
    now := ← present
    entropy := (← IO.getRandomBytes 32).data.toList
    transport := fun _ network => (.unreachable, network)
    network := () }
  return run surroundings arguments

end ClientAssertion.CommandLine

/-- The entry of the program. -/
def main (arguments : List String) : IO UInt32 := do
  let report ← ClientAssertion.CommandLine.execution arguments
  (← IO.getStdout).putStr report.stdout
  (← IO.getStderr).putStr report.stderr
  return report.exitCode.toUInt32
