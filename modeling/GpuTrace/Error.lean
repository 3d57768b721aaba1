import GpuTrace.Driver.Error

/-!
# Errors of setting up

What can go wrong before tracing runs: the driver can not be traced, counter
reports lack a column, or a configuration is wrong. Unlike a fault, such an error
leaves everything as it was and is reported to the caller.
-/

namespace GpuTrace

inductive FileError
  | notFound
  | permissionDenied
  | isDirectory
  | notDirectory
  | nameTooLong
  /-- The device failed. -/
  | inputOutput
  /-- There is no device behind the file. -/
  | noDevice
  /-- The content is not UTF-8. -/
  | invalidText
  | other (message : String)
  deriving DecidableEq

namespace FileError

def numbered (what : String) (number : Nat) : String :=
  s!"{what} (os error {number})"

def message : FileError → String
  | .notFound => numbered "No such file or directory" 2
  | .inputOutput => numbered "Input/output error" 5
  | .noDevice => numbered "No such device or address" 6
  | .permissionDenied => numbered "Permission denied" 13
  | .notDirectory => numbered "Not a directory" 20
  | .isDirectory => numbered "Is a directory" 21
  | .nameTooLong => numbered "File name too long" 36
  | .invalidText => "stream did not contain valid UTF-8"
  | .other message => message

end FileError

/-- Why a collector, an aggregator or a configuration could not be set up. -/
inductive SetupError
  | unsupportedApiVersion (major minor : UInt32)
  | tracerCreate (error : DriverError)
  | tracerToggle (error : DriverError)
  | eventCreate (error : DriverError)
  | missingMetric (subDevice : Nat) (metric : String)
  | invalidReportLayout (subDevice : Nat) (reason : String)
  | config (reason : String)
  /-- The reader of a document refuses it and says why. -/
  | configParse (reason : String)
  | file (error : FileError)
  deriving DecidableEq

namespace SetupError

def message : SetupError → String
  | .unsupportedApiVersion major minor =>
    s!"Driver API version {major.toNat}.{minor.toNat} does not support the tracing layer"
  | .tracerCreate error => s!"Unable to create driver tracer: {error.message}"
  | .tracerToggle error => s!"Unable to toggle driver tracer: {error.message}"
  | .eventCreate error => s!"Unable to create profiling event: {error.message}"
  | .missingMetric subDevice metric => s!"Metric {metric} not found for sub-device {subDevice}"
  | .invalidReportLayout subDevice reason =>
    s!"Invalid report layout for sub-device {subDevice}: {reason}"
  | .config reason => s!"Invalid configuration: {reason}"
  | .configParse reason => s!"Failed to parse configuration: {reason}"
  | .file error => s!"IO error: {error.message}"

/-- The error with the errors underneath, outermost first. -/
def chain (e : SetupError) : List String :=
  match e with
  | .configParse reason => [e.message, reason]
  | .file error => [e.message, error.message]
  | _ => [e.message]

end SetupError

end GpuTrace
