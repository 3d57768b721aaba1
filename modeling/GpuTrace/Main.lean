import GpuTrace.Program.Run

/-!
# The tracing program

Hands the arguments, the environment and the files to `Program.run` and writes
what it answers.
-/

namespace GpuTrace.Program

def fileError : IO.Error → FileError
  | .noFileOrDirectory .. => .notFound
  | .permissionDenied .. => .permissionDenied
  | .inappropriateType _ code _ => if code = 21 then .isDirectory else .notDirectory
  | .invalidArgument .. => .nameTooLong
  | .hardwareFault .. => .inputOutput
  | .noSuchThing .. => .noDevice
  | e => .other (toString e)

def readText (path : String) : IO (Except FileError String) := do
  try
    let bytes ← IO.FS.readBinFile path
    match String.fromUTF8? bytes with
    | some text => return .ok text
    | none => return .error .invalidText
  catch e => return .error (fileError e)

/-- Files of a run: it reads no other than the one with the configuration. -/
def filesFor (arguments : List String) : IO Files := do
  match (Options.read arguments).toOption.bind (·.config) with
  | none => return fun _ => .error .notFound
  | some path =>
    let content ← readText path
    return fun _ => content

end GpuTrace.Program

open GpuTrace

def main (arguments : List String) : IO UInt32 := do
  let files ← Program.filesFor arguments
  let verbose ← IO.getEnv Environment.verboseName
  let intervals ← IO.getEnv Environment.intervalsName
  let intervalDomain ← IO.getEnv Environment.intervalDomainName
  let outcome := Program.run files ⟨verbose, intervals, intervalDomain⟩ arguments
  (← IO.getStdout).putStr outcome.output
  (← IO.getStderr).putStr outcome.errors
  return outcome.exitCode.toUInt32
