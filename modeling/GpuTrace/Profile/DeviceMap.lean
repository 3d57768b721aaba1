import GpuTrace.Fault
import GpuTrace.Table

/-!
# Device map — root devices and their sub-devices

Work on a root device that has sub-devices is spread over all of them, so it is
attributed to one slice per sub-device. Work on a sub-device is one slice of the
root that owns it. Slices are counted in 32 bits.
-/

namespace GpuTrace

/-- Root devices in the order of enumeration, each with its sub-devices. -/
structure DeviceMap where
  roots : Table DeviceHandle (List DeviceHandle)
  deriving DecidableEq

namespace DeviceMap

def empty : DeviceMap := ⟨.empty⟩

/-- Adds a root device. A second list of sub-devices under one handle replaces the
first one before it is refused. -/
def insert (device : DeviceHandle) (subDevices : List DeviceHandle) : Fallible DeviceMap Unit :=
  fun m =>
    let m' : DeviceMap := ⟨m.roots.insert device subDevices⟩
    if m.roots.contains device then .error (.deviceMappedTwice device) m' else .ok () m'

def ofRoots (roots : List (DeviceHandle × List DeviceHandle)) : Except Fault DeviceMap :=
  match (roots.forM fun root => insert root.1 root.2).run empty with
  | .ok _ m => .ok m
  | .error e _ => .error e

/-- The first root that has `device` as a sub-device, and its place there. -/
def ownerOf (device : DeviceHandle) :
    List (DeviceHandle × List DeviceHandle) → Option (DeviceHandle × Nat)
  | [] => none
  | (root, subDevices) :: rest =>
    match subDevices.idxOf? device with
    | some place => some (root, place)
    | none => ownerOf device rest

/-- The root that owns work on `device`, and the slices it is attributed to. -/
def slices (m : DeviceMap) (device : DeviceHandle) : Except Fault (DeviceHandle × List Nat) :=
  match m.roots.get? device with
  | some [] => .ok (device, [0])
  | some subDevices => .ok (device, List.range (subDevices.length % UInt32.size))
  | none =>
    match ownerOf device m.roots.entries with
    | some (root, place) => .ok (root, [place % UInt32.size])
    | none => .error (.deviceNotMapped device)

end DeviceMap

end GpuTrace
