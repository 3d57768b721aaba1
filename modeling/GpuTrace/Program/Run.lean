import GpuTrace.Config.Document
import GpuTrace.Fault.Message
import GpuTrace.Profile.Summary
import GpuTrace.Program.Options
import GpuTrace.Program.Workload
import GpuTrace.Session.Basic

/-!
# Runs of the tracing program

A run reads its arguments, loads the configuration, traces the workload and
writes the kernel table. `run` is this as a function of the arguments, the
environment and the files; what it answers has the exit code and the texts for
the two output streams.

The configuration is the file, or else the defaults, under the environment
variables; the option for verbose names comes last. The file is TOML.
-/

namespace GpuTrace.Program

def name : String := "kerntrace"

def version : String := "0.1.0"

/-- An error with what was being done when it occurred. -/
structure Failure where
  context : String
  cause : SetupError
  deriving DecidableEq

namespace Failure

def indentRest (width : Nat) (s : String) : String :=
  s.replace "\n" ("\n" ++ String.ofList (List.replicate width ' '))

/-- Lines that list the causes from `number` on. -/
def numbered : Nat → List String → String
  | _, [] => ""
  | number, cause :: causes =>
    s!"    {number}: {indentRest 7 cause}\n" ++ numbered (number + 1) causes

def causeLines : List String → String
  | [cause] => s!"    {indentRest 4 cause}\n"
  | causes => numbered 0 causes

def text (f : Failure) : String :=
  s!"Error: {f.context}\n\nCaused by:\n" ++ causeLines f.cause.chain

end Failure

inductive Outcome
  /-- The arguments asked for no run. -/
  | rejected (rejection : Rejection)
  | failed (failure : Failure)
  /-- A fault in the middle of the workload, behind what was written before. -/
  | stopped (output : String) (fault : Fault)
  | finished (output : String)
  deriving DecidableEq

def helpText : String :=
  "Trace a simulated GPU workload and report per-kernel timing\n\n" ++
  "Usage: kerntrace [OPTIONS]\n\n" ++
  "Options:\n" ++
  "      --format <FORMAT>    Output format (text or json) [default: text]\n" ++
  "  -v, --verbose            Suffix kernel names with SIMD width, group count and group size\n" ++
  "      --config <FILE>      Load tracer configuration from a TOML file\n" ++
  "  -k, --kernels <KERNELS>  Number of kernel launches in the simulated workload [default: 4]\n" ++
  "      --print-calls        Print every finished call as it completes\n" ++
  "      --debug              Enable debug tracing output to stderr\n" ++
  "  -h, --help               Print help\n" ++
  "  -V, --version            Print version\n"

def rejectionText : Rejection → String
  | .invalidValue => "error: invalid or missing value of an option\n"
  | .invalidNumber => "error: invalid number\n"
  | .unknownArgument => "error: unexpected argument\n"
  | .repeated => "error: an option cannot be used multiple times\n"
  | .unexpectedValue => "error: unexpected value for an option that takes none\n"
  | .help | .version => ""

namespace Outcome

def exitCode : Outcome → UInt8
  | .rejected .help | .rejected .version | .finished _ => 0
  | .failed _ => 1
  | .rejected _ => 2
  | .stopped .. => 101

def output : Outcome → String
  | .rejected .help => helpText
  | .rejected .version => s!"{name} {version}\n"
  | .rejected _ | .failed _ => ""
  | .stopped output _ | .finished output => output

def errors : Outcome → String
  | .rejected rejection => rejectionText rejection
  | .failed failure => failure.text
  | .stopped _ fault => fault.message ++ "\n"
  | .finished _ => ""

end Outcome

/-! ## Configuration -/

abbrev Files := String → Except FileError String

def configOfFile (read : Config.Reader) (files : Files) (path : String) : Except SetupError Config :=
  match files path with
  | .ok text => Config.ofText read text
  | .error e => .error (.file e)

def within {α : Type} (context : String) : Except SetupError α → Except Failure α
  | .ok a => .ok a
  | .error cause => .error ⟨context, cause⟩

/-- Settings of a run: the file or the defaults, then the environment, then the option
for verbose names. -/
def loadConfig (read : Config.Reader) (files : Files) (env : Environment) (options : Options) :
    Except Failure Config := do
  let config ←
    match options.config with
    | some path => within s!"Failed to load config {path}" (configOfFile read files path)
    | none => pure Config.default
  let config ← within "Invalid KERNTRACE_* environment override" (config.override env)
  return if options.verbose then { config with verbose := true } else config

/-! ## Workload and report -/

def callLine (finish : KernelFinish) : String :=
  s!"<{finish.queue.text}> {finish.name} [{finish.id}] appended={finish.appended.toNat} " ++
  s!"submitted={finish.submitted.toNat} started={finish.started.toNat} ended={finish.ended.toNat}\n"

def callLines (journal : Journal) : String :=
  String.join (journal.notices.toList.map fun notice => callLine notice.finish)

def report (format : TableFormat) (entries : List KernelEntry) : Except Fault String := do
  let summary ← Summary.of entries
  match format with
  | .text => summary.text
  | .json => return summary.json.pretty ++ "\n"

/-- Creates a collector on a driver with one device, and traces the workload. -/
def traceWorkload (config : Config) (options : Options) :
    Fallible Session (Except SetupError Unit) := do
  let device ← Session.onDriver (·.addDevice Workload.timerFrequency 0)
  match ← Session.createCollector config options.printCalls with
  | .error e => return .error e
  | .ok () =>
    let _ ← Session.trace (Workload.run device options.kernels.toNat)
    return .ok ()

def initialSession : Session :=
  .of .standard Workload.startTime

def kernelTable (s : Session) : List KernelEntry :=
  match s.collector with
  | some collector => collector.sortedInfo
  | none => []

/-- Traces the workload with the given settings and writes the table behind the lines
about calls. -/
def runWith (config : Config) (options : Options) : Outcome :=
  match (traceWorkload config options).run initialSession with
  | .error fault s => .stopped (callLines s.journal) fault
  | .ok (.error e) _ => .failed ⟨"Failed to create kernel collector", e⟩
  | .ok (.ok ()) s =>
    match report options.format (kernelTable s) with
    | .ok table => .finished (callLines s.journal ++ table)
    | .error fault => .stopped (callLines s.journal) fault

def run (files : Files) (env : Environment) (arguments : List String) : Outcome :=
  match Options.read arguments with
  | .error rejection => .rejected rejection
  | .ok options =>
    match loadConfig Config.parse files env options with
    | .error failure => .failed failure
    | .ok config => runWith config options

end GpuTrace.Program
