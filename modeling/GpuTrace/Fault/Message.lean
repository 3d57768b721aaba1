import GpuTrace.Fault
import GpuTrace.Metrics.ValueText
import GpuTrace.Text.Quoted

/-!
# Wording of faults

A comparison that failed shows both sides on lines of their own.
-/

namespace GpuTrace.Fault

def mismatch (what : String) (left right : Nat) : String :=
  s!"assertion \x60left == right\x60 failed: {what}\n  left: {left}\n right: {right}"

def refusedVariable (name : String) (value : List UInt8) (reason : String) : String :=
  let name := Text.quoted name
  let value := Text.quotedBytes value
  s!"failed to set environment variable \x60{name}\x60 to \x60{value}\x60: {reason}"

def message : Fault → String
  | .addOverflow => "attempt to add with overflow"
  | .subOverflow => "attempt to subtract with overflow"
  | .mulOverflow => "attempt to multiply with overflow"
  | .zeroFrequency => "device timer frequency must be non-zero"
  | .manyWraps start stop =>
    s!"kernel timestamps {start.toNat}..{stop.toNat} span more than one timer wrap"
  | .clockNotMonotonic start submit =>
    s!"device clock is not monotonic: kernel start {start.toNat} <= submit {submit.toNat}"
  | .beforeSync timestamp hostSync =>
    s!"host timestamp {timestamp.toNat} precedes clock sync point {hostSync.toNat}"
  | .emptyName => "operation name must not be empty"
  | .listNotRegistered list => s!"command list {list.text} is not registered"
  | .listRegisteredTwice list => s!"command list {list.text} registered twice"
  | .listInUse list => s!"command list {list.text} freed while calls are still pending"
  | .immediateBatch list => s!"batch submission of immediate command list {list.text}"
  | .batchBeforeAppend => "command submitted before it was appended"
  | .callBeforeAppend kernelId => s!"command {kernelId} submitted before it was appended"
  | .freedCommand list current referred =>
    mismatch s!"call references a freed command of list {list.text}" current referred
  | .indexOutOfBounds size index =>
    s!"index out of bounds: the len is {size} but the index is {index}"
  | .removalOutOfBounds index size =>
    s!"removal index (is {index}) should be < len (is {size})"
  | .imageRegisteredTwice image => s!"image {image.text} registered twice"
  | .imageNotRegistered image => s!"image {image.text} is not registered"
  | .deviceMappedTwice device => s!"device {device.text} enumerated twice"
  | .deviceNotMapped device => s!"device {device.text} is not part of the device map"
  | .unexpectedStatus event error => s!"unexpected status of event {event.text}: {error.message}"
  | .timestampUnavailable error => s!"kernel timestamp of a signalled event: {error.message}"
  | .noSuchDevice device => s!"simulated device {device.text} does not exist"
  | .noSuchEvent event => s!"simulated event {event.text} does not exist"
  | .noSuchKernel kernel => s!"simulated kernel {kernel.text} does not exist"
  | .schemaMismatch names kinds => mismatch "metric schema needs one kind per column" names kinds
  | .unknownSubDevice id => s!"sub-device {id} is not registered"
  | .reportWidth actual expected => mismatch "report width does not match schema" actual expected
  | .emptyReport => "report size must be non-zero"
  | .timeColumnOutside => "time column outside of report"
  | .reversedWindow start stop => s!"window {start.toNat}..{stop.toNat} is reversed"
  | .partialReport rest => mismatch "report chunk is not a whole number of reports" rest 0
  | .timeNotWord64 value => s!"report time must be u64, got {value.tagged}"
  | .clocksNotWord64 value => s!"clock column must be u64, got {value.tagged}"
  | .nothingToSum => "no reports to sum"
  | .nothingToAverage => "no reports to average"
  | .zeroClocks => "clock-weighted average over zero total clocks"
  | .mixedTypes column value => s!"mixed value types in column {column}: {value.tagged}"
  | .flagSum column => s!"boolean column {column} can not be summed"
  | .flagAverage column => s!"boolean column {column} can not be averaged"
  | .schemaMissing subDevice => s!"sub-device {subDevice} has no metric schema"
  | .notSampled subDevice => s!"sub-device {subDevice} is not sampled"
  | .variableWithNul name value =>
    refusedVariable name value "file name contained an unexpected NUL byte"
  | .variableName name value => refusedVariable name value "Invalid argument (os error 22)"

end GpuTrace.Fault
