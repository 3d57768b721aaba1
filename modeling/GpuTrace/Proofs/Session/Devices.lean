import GpuTrace.Proofs.Driver.Devices
import GpuTrace.Proofs.Session.Touch
import GpuTrace.Proofs.Session.Turn

/-!
# Devices — attribution in maps of any driver that can come up

Whatever is done to a driver, its devices are only added to and their timers moved, so it always
enumerates separate devices (`run_enumerated`). A map of separate devices exists and is coherent, in
whatever order the roots are inserted or listed (`slices_coherent`).
-/

namespace GpuTrace.Session

open Fallible

variable {s : Session} {a : Action}

theorem step_enumerated (h : s.driver.Enumerated) : (s.step a).2.driver.Enumerated := by
  cases hd : a.disturbs with
  | false =>
    have hcalm : Calm s (s.step a).2 := step_calm hd
    refine h.of_outline (run_evolves [a]).mono ?_
    unfold Driver.outline
    rw [hcalm.devices]
  | true =>
    have hsame : ∀ d : Driver, d.lastHandle = s.driver.lastHandle → d.devices = s.driver.devices →
        d.Enumerated := by
      intro d hlast hdevices
      refine h.of_outline hlast.ge ?_
      unfold Driver.outline
      rw [hdevices]
    have hends : Ends a.perform s (fun _ s' => s'.driver.Enumerated)
        (fun _ s' => s'.driver.Enumerated) := by
      cases a with
      | addDevice frequency subDevices =>
        exact ends_bind.mpr (Driver.addDevice_enumerated h frequency subDevices)
      | setTimestampMask mask => exact ends_bind.mpr (hsame _ rfl rfl)
      | setEventStatus event status => exact ends_bind.mpr (hsame _ rfl rfl)
      | hostReset event => exact ends_bind.mpr (hsame _ rfl rfl)
      | setDeviceTime device ticks =>
        refine ends_bind.mpr (ends_updateDriver.mpr ?_)
        cases hset : s.driver.setDeviceTime device ticks with
        | error e => exact h
        | ok d =>
          obtain ⟨-, -, rfl⟩ := Driver.setDeviceTime_ok hset
          exact h.of_outline (Nat.le_refl _) (Driver.outline_modify device _)
      | advanceDeviceTime device ticks =>
        refine ends_bind.mpr (ends_updateDriver.mpr ?_)
        cases hset : s.driver.advanceDeviceTime device ticks with
        | error e => exact h
        | ok d =>
          obtain ⟨-, -, -, -, rfl⟩ := Driver.advanceDeviceTime_ok hset
          exact h.of_outline (Nat.le_refl _) (Driver.outline_modify device _)
      | signal event timestamp =>
        refine ends_bind.mpr (ends_updateDriver.mpr ?_)
        cases hsignal : s.driver.signal event timestamp with
        | error e => exact h
        | ok d =>
          obtain rfl := Driver.signal_ok hsignal
          exact hsame _ rfl rfl
      | _ => cases hd
    rcases step_of_ends hends with ⟨-, -, h'⟩ | ⟨-, -, h'⟩ <;> exact h'

theorem run_enumerated (h : s.driver.Enumerated) (actions : List Action) :
    (s.run actions).driver.Enumerated := by
  induction actions generalizing s with
  | nil => exact h
  | cons a actions ih => exact ih (step_enumerated h)

/-- **Attribution is coherent and does not depend on any order.** Separate devices can be put into a
map, and what the map answers is fixed by them: a root without sub-devices has one slice, a root
with some has one for each of them, as far as 32 bits can count them, which together are the slices
of its sub-devices, and only devices that are neither have none. All that a driver ever enumerates
are separate devices. -/
theorem slices_coherent :
    (∀ roots, SeparateDevices roots →
      ∃ m, DeviceMap.ofRoots roots = .ok m ∧ m.Coherent roots) ∧
    ∀ (version : ApiVersion) (backend : Backend) (now : UInt64) (actions : List Action),
      SeparateDevices
        ((Session.of (.of version backend) now).run actions).driver.rootsWithSubDevices := by
  constructor
  · intro roots h
    obtain ⟨m, hm⟩ := DeviceMap.exists_ofRoots h.distinct
    exact ⟨m, hm, DeviceMap.coherent_of_separate h hm⟩
  · intro version backend now actions
    have henumerated : (Session.of (.of version backend) now).driver.Enumerated :=
      Driver.enumerated_of version backend
    exact (run_enumerated henumerated actions).separate

/-- A root with two sub-devices and one with none, with other objects made before and between. -/
def twoRoots : Session :=
  (Session.of (.of ⟨1, 2⟩ .computeDriver) 0).run
    [.newEvent, .addDevice 1000 2, .newObject, .addDevice 1000 0]

/-- The second sub-device is the second slice of the first root, also in the map that lists the
roots the other way round, and an object that is no device has no slices. -/
theorem slices_coherent_twoRoots :
    ∃ m m', DeviceMap.ofRoots twoRoots.driver.rootsWithSubDevices = .ok m ∧
      DeviceMap.ofRoots twoRoots.driver.rootsWithSubDevices.reverse = .ok m' ∧
      m.slices ⟨3⟩ = .ok (⟨3⟩, [0, 1]) ∧ m.slices ⟨5⟩ = .ok (⟨3⟩, [1]) ∧
      m'.slices ⟨5⟩ = .ok (⟨3⟩, [1]) ∧ m.slices ⟨7⟩ = .ok (⟨7⟩, [0]) ∧
      m.slices ⟨6⟩ = .error (.deviceNotMapped ⟨6⟩) := by
  have hroots : twoRoots.driver.rootsWithSubDevices = [(⟨3⟩, [⟨4⟩, ⟨5⟩]), (⟨7⟩, [])] := by
    decide +kernel
  have hseparate : SeparateDevices twoRoots.driver.rootsWithSubDevices :=
    slices_coherent.2 ⟨1, 2⟩ .computeDriver 0 _
  obtain ⟨m, hm, hcoherent⟩ := slices_coherent.1 _ hseparate
  obtain ⟨m', hm', hsame⟩ := hcoherent.inserted _ (List.reverse_perm _)
  have hroot : (⟨3⟩, [⟨4⟩, ⟨5⟩]) ∈ twoRoots.driver.rootsWithSubDevices := by
    rw [hroots]
    exact List.mem_cons_self
  have hwhole : (⟨7⟩, []) ∈ twoRoots.driver.rootsWithSubDevices := by
    rw [hroots]
    exact List.mem_cons_of_mem _ List.mem_cons_self
  have hfew : [(⟨4⟩ : DeviceHandle), ⟨5⟩].length < UInt32.size := by decide
  have htile : m.slices ⟨5⟩ = .ok (⟨3⟩, [1]) := (hcoherent.tile _ _ 1 _ hroot rfl).2 hfew
  have htiles : m.slices ⟨3⟩ = .ok (⟨3⟩, [0, 1]) :=
    (hcoherent.partitioned _ _ hroot (List.cons_ne_nil _ _)).2 hfew
  refine ⟨m, m', hm, hm', htiles, htile, (hsame _).trans htile, hcoherent.whole _ hwhole,
    (hcoherent.stops_iff _ _).mpr ⟨?_, rfl⟩⟩
  rw [hroots]
  decide

end GpuTrace.Session
