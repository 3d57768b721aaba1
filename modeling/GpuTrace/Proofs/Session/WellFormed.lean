import GpuTrace.Proofs.Collector.Completion
import GpuTrace.Proofs.Session.Touch
import Mathlib.Data.List.Nodup

/-!
# Sessions keep their registry well formed

The registry of the collector is well formed at every point of every session,
whatever was done before and whichever actions stopped with a fault half-way. A look-up
of a pending call, a sweep and the completion of one event never stop with a fault
about a reference.

Main facts: `Touch.registryWellFormed` for what actions do and `pending_resolves` for
all runs.
-/

namespace GpuTrace.Session

open Fallible Tracing

def RegistryWellFormed (s : Session) : Prop :=
  ∀ c, s.collector = some c → c.registry.WellFormed

theorem Touch.registryWellFormed {s s' : Session} (h : Touch s s')
    (hs : s.RegistryWellFormed) : s'.RegistryWellFormed := by
  cases h with
  | outside => exact hs
  | warned => exact hs
  | kept => exact hs
  | taken => exact hs
  | submits => exact hs
  | forgotten => exact nofun
  | made new =>
    rintro _ ⟨⟩
    rw [new.registry_eq]
    exact Registry.wellFormed_empty
  | traced at_work changes =>
    rintro _ ⟨⟩
    exact (hs _ at_work).reaches changes.registry

theorem RegistryWellFormed.run {s : Session} (h : s.RegistryWellFormed) (actions : List Action) :
    (s.run actions).RegistryWellFormed :=
  run_keeps (fun _ _ => Touch.registryWellFormed) h actions

theorem RegistryWellFormed.next {s : Session} (h : s.RegistryWellFormed) (a : Action) :
    (next s a).RegistryWellFormed :=
  h.run [a]

theorem registryWellFormed_of (driver : Driver) (now : UInt64) :
    (Session.of driver now).RegistryWellFormed := by
  intro c hc
  cases hc

theorem registryWellFormed_run (driver : Driver) (now : UInt64) (actions : List Action) :
    ((Session.of driver now).run actions).RegistryWellFormed :=
  (registryWellFormed_of driver now).run actions

/-- In every session, after any actions and any faults: each pending call refers to a
registered list in its current epoch, to a slot of the list, and has a call id of the
command there; no two have the same reference and id; epochs differ and are below the
counter. So neither a look-up nor a completion stops at a dangling reference. -/
theorem pending_resolves (driver : Driver) (now : UInt64) (actions : List Action) (c : Collector)
    (hc : ((Session.of driver now).run actions).collector = some c) :
    let s := (Session.of driver now).run actions
    let r := c.registry
    (∀ call ∈ r.pending, ∃ info, r.lists.get? call.command.list = some info ∧
      info.epoch = call.command.epoch ∧
      ∃ hslot : call.command.slot < info.commands.size,
        1 ≤ call.callId ∧ call.callId ≤ info.commands[call.command.slot].callCount) ∧
    (r.pending.map fun call =>
      (call.command.list, call.command.epoch, call.command.slot, call.callId)).Nodup ∧
    (∀ list info, r.lists.get? list = some info → info.epoch < r.nextEpoch) ∧
    (∀ list list' info info', r.lists.get? list = some info → r.lists.get? list' = some info' →
      info.epoch = info'.epoch → list = list') ∧
    (∀ event, ∃ found, r.findPending event = .ok found) ∧
    (∀ e t, sweep (s.tracing c) = .error e t → ¬ e.IsDangling) ∧
    ∀ event e t, completeEvent event (s.tracing c) = .error e t → ¬ e.IsDangling := by
  intro s r
  have hinit : (Session.of driver now).RegistryWellFormed := nofun
  have h : r.WellFormed := run_keeps (fun _ _ => Touch.registryWellFormed) hinit actions c hc
  refine ⟨?_, ?_, h.epoch_lt, h.epoch_inj, h.findPending_eq_ok, ?_, ?_⟩
  · intro call hcall
    obtain ⟨cmd, hcmd, hlo, hhi⟩ := h.resolves call hcall
    obtain ⟨info, hinfo, hepoch, hslot⟩ := Registry.command_eq_ok_iff.mp hcmd
    obtain ⟨hlt, rfl⟩ := Array.getElem?_eq_some_iff.mp hslot
    exact ⟨info, hinfo, hepoch, hlt, hlo, hhi⟩
  · have hinj : Function.Injective fun p : CommandRef × Nat =>
        (p.1.list, p.1.epoch, p.1.slot, p.2) := by
      rintro ⟨⟨l, e, i⟩, n⟩ ⟨⟨l', e', i'⟩, n'⟩ heq
      simpa [and_assoc] using heq
    simpa [Function.comp_def] using List.Nodup.map hinj h.distinct
  · intro e t he
    exact (sweep_ends (t := s.tracing c) h).of_error he
  · intro event e t he
    exact (completeEvent_ends (t := s.tracing c) h event).of_error he

def refusedReset : List Action :=
  [.addDevice 1000 0, .create .default true, .exitListCreate ⟨5⟩ ⟨4⟩ ⟨1⟩ false (.ok ()),
    .enterAppend 0 ⟨5⟩ .barrier none, .exitAppend 0 (.ok ()), .enterExecute 0 ⟨9⟩ [⟨5⟩],
    .exitExecute 0 (.ok ()), .exitListReset ⟨5⟩ (.ok ())]

/-- The refused reset has spent an epoch; the call is still there and found. -/
theorem pending_resolves_refusedReset :
    ∃ c, ((Session.of .standard 7).run refusedReset).collector = some c ∧
      c.registry.pending.length = 1 ∧ c.registry.nextEpoch = 2 ∧
      ∀ event, ∃ found, c.registry.findPending event = .ok found := by
  have hfacts : ((Session.of .standard 7).run refusedReset).collector.map
      (fun c => (c.registry.pending.length, c.registry.nextEpoch)) = some (1, 2) := by
    decide +kernel
  obtain ⟨c, hc, hpair⟩ := Option.map_eq_some_iff.mp hfacts
  obtain ⟨hlength, hepoch⟩ := Prod.mk.inj hpair
  exact ⟨c, hc, hlength, hepoch, (pending_resolves .standard 7 refusedReset c hc).2.2.2.2.1⟩

end GpuTrace.Session
