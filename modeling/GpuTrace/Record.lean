import GpuTrace.Config
import GpuTrace.Json
import GpuTrace.Profile.Basic

/-!
# Records — what was traced, as JSON

Handles are numbers and clock domains are their names. Each record is an object
with the fields of its type in order.
-/

namespace GpuTrace

def Handle.json {kind : HandleKind} (h : Handle kind) : Json :=
  .natural h.raw

def ClockDomain.json (d : ClockDomain) : Json :=
  .string d.name

def Dims.json (d : Dims) : Json :=
  .object
    [("x", .natural d.x.toNat),
      ("y", .natural d.y.toNat),
      ("z", .natural d.z.toNat)]

def Config.json (c : Config) : Json :=
  .object
    [("verbose", .bool c.verbose),
      ("kernel_intervals", .bool c.kernelIntervals),
      ("interval_domain", c.intervalDomain.json),
      ("time_column", .string c.timeColumn),
      ("clocks_column", .string c.clocksColumn)]

def KernelInfo.json (k : KernelInfo) : Json :=
  .object
    [("total_time", .natural k.totalTime.toNat),
      ("min_time", .natural k.minTime.toNat),
      ("max_time", .natural k.maxTime.toNat),
      ("call_count", .natural k.callCount.toNat)]

def KernelFinish.json (f : KernelFinish) : Json :=
  .object
    [("queue", f.queue.json),
      ("id", .string f.id),
      ("name", .string f.name),
      ("appended", .natural f.appended.toNat),
      ("submitted", .natural f.submitted.toNat),
      ("started", .natural f.started.toNat),
      ("ended", .natural f.ended.toNat)]

def DeviceInterval.json (w : DeviceInterval) : Json :=
  .object
    [("start", .natural w.start.toNat),
      ("end", .natural w.stop.toNat),
      ("sub_device_id", .natural w.subDevice)]

def KernelInterval.json (i : KernelInterval) : Json :=
  .object
    [("kernel_name", .string i.kernelName),
      ("device", i.device.json),
      ("domain", i.domain.json),
      ("device_intervals", .array (i.windows.map DeviceInterval.json))]

end GpuTrace
