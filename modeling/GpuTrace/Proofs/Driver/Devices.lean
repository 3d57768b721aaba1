import GpuTrace.Proofs.Driver.Signals
import GpuTrace.Proofs.Profile.Devices
import Mathlib.Data.List.Nodup

/-!
# Devices — what a driver enumerates

A root and its sub-devices get handles that were never given before, so they are none of the devices
from before and all different from each other. In a driver whose devices were all added this way
every handle names one device (`Enumerated`). Adding a device keeps this (`addDevice_enumerated`),
and nothing else that a driver does changes what is enumerated (`Enumerated.of_outline`).
-/

namespace GpuTrace

/-- One more root, none of whose devices is there yet. -/
theorem SeparateDevices.concat {roots : List (DeviceHandle × List DeviceHandle)}
    (h : SeparateDevices roots) {root : DeviceHandle} {tiles : List DeviceHandle}
    (hnew : ∀ entry ∈ roots, ∀ device ∈ entry.1 :: entry.2, device ∉ root :: tiles)
    (hnodup : (root :: tiles).Nodup) : SeparateDevices (roots ++ [(root, tiles)]) := by
  obtain ⟨hroot, htiles⟩ := List.nodup_cons.mp hnodup
  have hroots : ∀ entry ∈ roots, entry.1 ∉ root :: tiles := fun entry he =>
    hnew entry he entry.1 List.mem_cons_self
  have hlists : ∀ entry ∈ roots, ∀ device ∈ entry.2, device ∉ root :: tiles :=
    fun entry he device hdevice => hnew entry he device (List.mem_cons_of_mem _ hdevice)
  have hdisjoint : ∀ entry ∈ roots, entry.2.Disjoint tiles := fun entry he device hdevice hmem =>
    hlists entry he device hdevice (List.mem_cons_of_mem _ hmem)
  constructor
  · rw [List.map_append, List.map_singleton, List.nodup_append]
    refine ⟨h.distinct, List.pairwise_singleton _ _, ?_⟩
    rintro device hdevice device' hdevice' rfl
    obtain ⟨entry, he, rfl⟩ := List.mem_map.mp hdevice
    exact hroots entry he (List.mem_singleton.mp hdevice' ▸ List.mem_cons_self)
  all_goals simp only [List.forall_mem_append, List.forall_mem_singleton]
  · exact ⟨h.unrepeated, htiles⟩
  · refine ⟨fun entry he => ⟨h.disjoint entry he, fun _ => hdisjoint entry he⟩,
      fun entry he _ => List.disjoint_symm (hdisjoint entry he), fun hne => absurd rfl hne⟩
  · refine ⟨fun entry he => ⟨h.apart entry he, ?_⟩, fun entry he hmem => ?_, hroot⟩
    · exact List.not_mem_of_not_mem_cons (hroots entry he)
    · exact hlists entry he root hmem List.mem_cons_self

namespace Driver

/-- Everything that is known of the devices but their timers. -/
def outline (d : Driver) : List (DeviceHandle × Bool × List DeviceHandle) :=
  d.devices.entries.map fun e => (e.1, e.2.root, e.2.subDevices)

/-- The handles of all devices were given, and each of them names one device. -/
structure Enumerated (d : Driver) : Prop where
  given : ∀ o ∈ d.outline, ∀ device ∈ o.1 :: o.2.2, device.raw ≤ d.lastHandle
  separate : SeparateDevices d.rootsWithSubDevices

variable {d d' : Driver}

theorem rootsWithSubDevices_eq :
    d.rootsWithSubDevices = (d.outline.filter (·.2.1)).map fun o => (o.1, o.2.2) := by
  unfold rootsWithSubDevices outline
  rw [List.filter_map, List.map_map]
  rfl

theorem enumerated_of (version : ApiVersion) (backend : Backend) :
    (of version backend).Enumerated where
  given := nofun
  separate := ⟨List.nodup_nil, nofun, nofun, nofun⟩

theorem Enumerated.of_outline (h : d.Enumerated) (hmono : d.lastHandle ≤ d'.lastHandle)
    (houtline : d'.outline = d.outline) : d'.Enumerated where
  given o ho device hdevice :=
    Nat.le_trans (h.given o (houtline ▸ ho) device hdevice) hmono
  separate := by
    rw [rootsWithSubDevices_eq, houtline, ← rootsWithSubDevices_eq]
    exact h.separate

theorem outline_modify (device : DeviceHandle) (time : UInt64) :
    { d with devices := d.devices.modify device fun s => { s with time } }.outline =
      d.outline := by
  have hmodify : ∀ es : List (DeviceHandle × DeviceState),
      (Table.modifyIn device (fun s => { s with time }) es).map
          (fun e => (e.1, e.2.root, e.2.subDevices)) =
        es.map fun e => (e.1, e.2.root, e.2.subDevices) := by
    intro es
    induction es with
    | nil => rfl
    | cons e es ih =>
      by_cases h : e.1 = device <;> simp [Table.modifyIn, h, ih]
  exact hmodify d.devices.entries

theorem Enumerated.absent (h : d.Enumerated) {device : DeviceHandle}
    (hnew : d.lastHandle < device.raw) : d.devices.get? device = none := by
  cases hget : d.devices.get? device with
  | none => rfl
  | some state =>
    have hentry : (device, state.root, state.subDevices) ∈ d.outline :=
      List.mem_map.mpr ⟨(device, state), Table.mem_entries_iff.mpr hget, rfl⟩
    exact absurd (h.given _ hentry device List.mem_cons_self) (Nat.not_le_of_lt hnew)

/-! ## New devices -/

def nextRoot (d : Driver) (subDevices : Nat) : DeviceHandle × List DeviceHandle :=
  (⟨d.lastHandle + 1⟩, (List.range subDevices).map fun i => ⟨d.lastHandle + 2 + i⟩)

/-- New devices get the next handles, one each. -/
theorem mem_nextRoot {subDevices : Nat} {device : DeviceHandle}
    (h : device ∈ (d.nextRoot subDevices).1 :: (d.nextRoot subDevices).2) :
    d.lastHandle < device.raw ∧ device.raw ≤ d.lastHandle + 1 + subDevices := by
  rcases List.mem_cons.mp h with rfl | h
  · exact ⟨Nat.lt_succ_self _, Nat.le_add_right _ _⟩
  · obtain ⟨i, hi, rfl⟩ := List.mem_map.mp h
    rw [List.mem_range] at hi
    dsimp only
    omega

theorem nodup_nextRoot (d : Driver) (subDevices : Nat) :
    ((d.nextRoot subDevices).1 :: (d.nextRoot subDevices).2).Nodup := by
  unfold nextRoot
  rw [List.nodup_cons]
  constructor
  · intro h
    obtain ⟨i, -, heq⟩ := List.mem_map.mp h
    have hraw := congrArg Handle.raw heq
    dsimp only at hraw
    omega
  · refine List.Nodup.map (fun i j heq => ?_) List.nodup_range
    have hraw := congrArg Handle.raw heq
    exact Nat.add_left_cancel hraw

theorem outline_addDevice (h : d.Enumerated) (frequency : UInt64) (subDevices : Nat) :
    (d.addDevice frequency subDevices).2.outline =
      d.outline ++ (d.nextRoot subDevices).2.map (fun tile => (tile, false, [])) ++
        [((d.nextRoot subDevices).1, true, (d.nextRoot subDevices).2)] := by
  obtain ⟨hroot, htiles⟩ := List.nodup_cons.mp (d.nodup_nextRoot subDevices)
  have habsent : ∀ device ∈ (d.nextRoot subDevices).1 :: (d.nextRoot subDevices).2,
      d.devices.get? device = none := fun device hdevice => h.absent (mem_nextRoot hdevice).1
  let tile : DeviceState := ⟨frequency, 0, [], false⟩
  let root : DeviceState := ⟨frequency, 0, (d.nextRoot subDevices).2, true⟩
  let devices := (d.nextRoot subDevices).2.foldl (fun t sub => t.insert sub tile) d.devices
  have hdevices : devices.entries =
      d.devices.entries ++ (d.nextRoot subDevices).2.map fun sub => (sub, tile) :=
    Table.entries_foldl_insert tile htiles fun sub hsub =>
      habsent sub (List.mem_cons_of_mem _ hsub)
  have hnone : devices.get? (d.nextRoot subDevices).1 = none :=
    (Table.get?_foldl_insert_of_not_mem tile hroot).trans (habsent _ List.mem_cons_self)
  have houtline : (d.addDevice frequency subDevices).2.outline =
      (devices.insert (d.nextRoot subDevices).1 root).entries.map
        fun e => (e.1, e.2.root, e.2.subDevices) := rfl
  rw [houtline, Table.entries_insert_of_absent root hnone, hdevices, List.map_append,
    List.map_append, List.map_map]
  rfl

/-- A new root is listed last, with its sub-devices. -/
theorem rootsWithSubDevices_addDevice (h : d.Enumerated) (frequency : UInt64) (subDevices : Nat) :
    (d.addDevice frequency subDevices).2.rootsWithSubDevices =
      d.rootsWithSubDevices ++ [d.nextRoot subDevices] := by
  have htiles : ((d.nextRoot subDevices).2.map fun tile =>
      ((tile, false, []) : DeviceHandle × Bool × List DeviceHandle)).filter (·.2.1) = [] := by
    simp
  rw [rootsWithSubDevices_eq, outline_addDevice h, List.filter_append, List.filter_append, htiles,
    List.append_nil, List.map_append, ← rootsWithSubDevices_eq]
  rfl

theorem addDevice_enumerated (h : d.Enumerated) (frequency : UInt64) (subDevices : Nat) :
    (d.addDevice frequency subDevices).2.Enumerated where
  given o ho device hdevice := by
    have hnew : ∀ device ∈ (d.nextRoot subDevices).1 :: (d.nextRoot subDevices).2,
        device.raw ≤ (d.addDevice frequency subDevices).2.lastHandle :=
      fun device hdevice => (mem_nextRoot hdevice).2
    rw [outline_addDevice h, List.mem_append, List.mem_append] at ho
    rcases ho with (hold | htile) | hroot
    · refine Nat.le_trans (h.given o hold device hdevice) ?_
      show d.lastHandle ≤ d.lastHandle + 1 + subDevices
      omega
    · obtain ⟨tile, hmem, rfl⟩ := List.mem_map.mp htile
      obtain rfl := List.mem_singleton.mp hdevice
      exact hnew device (List.mem_cons_of_mem _ hmem)
    · obtain rfl := List.mem_singleton.mp hroot
      exact hnew device hdevice
  separate := by
    rw [rootsWithSubDevices_addDevice h]
    refine h.separate.concat (fun entry he device hdevice hnew => ?_) (d.nodup_nextRoot subDevices)
    rw [rootsWithSubDevices_eq] at he
    obtain ⟨o, ho, rfl⟩ := List.mem_map.mp he
    have hgiven := h.given o (List.mem_of_mem_filter ho) device hdevice
    exact absurd (mem_nextRoot hnew).1 (Nat.not_lt_of_le hgiven)

end Driver

end GpuTrace
