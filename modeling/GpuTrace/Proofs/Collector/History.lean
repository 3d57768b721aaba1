import GpuTrace.Proofs.Collector.Completion

/-!
# History of a collector — what completing calls takes in and tells

`signalled` are the pending calls whose events are ready, in order and as they finished;
`signalledBy` is the first of the calls that wait for one event, if the event is ready. A
completion that ends with an answer takes exactly these into the profile and, if the
application wants notices, tells of exactly these (`Took`): `processCalls_took`,
`processEvent_took`, `drainAndFree_took`.

A completion that stops with a fault tells nothing, but may have counted calls (`Broke`).
-/

namespace GpuTrace.Tracing

open Fallible Profile

variable {t t' : Tracing}

def signalled (t : Tracing) : List Finished :=
  t.registry.pending.filterMap t.finished?

def signalledBy (t : Tracing) (event : EventHandle) : Option Finished :=
  (t.registry.pending.find? (t.registry.waitsFor event)).bind t.finished?

/-- The calls of the history were taken in and told of, in order. -/
structure Took (t : Tracing) (history : List Finished) (t' : Tracing) : Prop where
  profile : TakesAll t.profile history t'.profile
  notifies : t'.collector.notifies = t.collector.notifies
  told : told t'.journal = Tracing.told t.journal ++
    if t.collector.notifies then history.map (·.notice) else []

/-- Nothing was told of; calls may have been counted. -/
structure Broke (t t' : Tracing) : Prop where
  counted : t.profile.counted ≤ t'.profile.counted
  notifies : t'.collector.notifies = t.collector.notifies
  told : told t'.journal = Tracing.told t.journal

theorem Hushed.took (h : Hushed t t') : Took t [] t' where
  profile := by
    rw [h.profile]
    exact .nil _
  notifies := h.notifies
  told := by simp [Tracing.told, h.notices]

theorem broke_settled {pending : List Call} {p : Profile} (h : t.profile.counted ≤ p.counted) :
    Broke t (t.settled pending p) :=
  ⟨h, rfl, rfl⟩

theorem Took.hushed {history : List Finished} {t'' : Tracing} (h : Took t history t')
    (hh : Hushed t' t'') : Took t history t'' where
  profile := hh.profile ▸ h.profile
  notifies := hh.notifies.trans h.notifies
  told := by
    rw [← h.told, Tracing.told, Tracing.told, hh.notices]

/-! ## One event -/

theorem signalledBy_eq_none {event : EventHandle}
    (h : ∀ call ∈ t.registry.pending, t.registry.waitsFor event call = true →
      t.driver.eventStatus event = .notReady) : t.signalledBy event = none := by
  unfold signalledBy
  cases hfind : t.registry.pending.find? (t.registry.waitsFor event) with
  | none => rfl
  | some call =>
    have hwaits := List.find?_some hfind
    have hstatus := h call (List.mem_of_find?_eq_some hfind) hwaits
    refine finished?_eq_none ?_
    rw [isReady_of_waitsFor hwaits, hstatus]
    rfl

theorem processEvent_took (h : t.registry.WellFormed) (event : EventHandle) :
    Ends (processEvent event) t (fun _ t' => Took t (t.signalledBy event).toList t')
      (fun _ t' => Broke t t') := by
  unfold processEvent
  rw [ends_bind]
  refine (completeEvent_cases h event).imp ?_ ?_
  · rintro found t₁ (⟨rfl, ht, hnone⟩ | ⟨before, call, after, f, p, hp, hwaits, hbefore, hf, rfl,
      htakes, rfl⟩)
    · rw [signalledBy_eq_none hnone, ht]
      exact (refl_of Hushed t).took
    · have hby : t.signalledBy event = some f := by
        simp [signalledBy, find?_of_first hp hwaits hbefore, hf]
      simp only [ends_bind, ends_pure]
      refine (notify_told [f.notice]).imp_ok ?_
      rintro - _ ⟨notices, rfl, htold⟩
      rw [hby]
      exact ⟨.cons htakes (.nil _), rfl, htold⟩
  · rintro e _ ⟨-, pending, p, hcounted, rfl⟩
    exact broke_settled hcounted

/-! ## All events -/

theorem sweep_took (h : t.registry.WellFormed) :
    Ends sweep t
      (fun finished t' => ∃ pending p, finished = t.signalled.map (·.notice) ∧
        TakesAll t.profile t.signalled p ∧ t' = t.settled pending p)
      (fun _ t' => Broke t t') := by
  unfold sweep
  simp only [ends_bind, ends_get]
  refine (sweepFrom_ends [] h rfl).imp ?_ ?_
  · rintro _ _ ⟨history, p, hhistory, rfl, htakes, rfl⟩
    obtain rfl := hhistory.eq_filterMap
    exact ⟨_, p, rfl, htakes, rfl⟩
  · rintro e _ ⟨-, pending, p, hcounted, rfl⟩
    exact broke_settled hcounted

theorem notify_took {history : List Finished} (t₁ : Tracing)
    (htakes : TakesAll t.profile history t₁.profile)
    (hnotifies : t₁.collector.notifies = t.collector.notifies) (hjournal : t₁.journal = t.journal) :
    Ends (notify (history.map (·.notice))) t₁ (fun _ t' => Took t history t')
      (fun _ _ => False) := by
  refine (notify_told _).imp_ok ?_
  rintro - _ ⟨notices, rfl, htold⟩
  refine ⟨htakes, hnotifies, ?_⟩
  rw [htold, hjournal, hnotifies]

theorem processCalls_took (h : t.registry.WellFormed) :
    Ends processCalls t (fun n t' => n = t.signalled.length ∧ Took t t.signalled t')
      (fun _ t' => Broke t t') := by
  unfold processCalls
  rw [ends_bind]
  refine (sweep_took h).imp ?_ fun _ _ hbroke => hbroke
  rintro _ _ ⟨pending, p, rfl, htakes, rfl⟩
  simp only [ends_bind, ends_pure]
  exact (notify_took (t.settled pending p) htakes rfl rfl).imp_ok
    (fun _ _ htook => ⟨List.length_map .., htook⟩)

/-- The driver may refuse to destroy an event, and then there is a warning, but no fault. -/
theorem releaseCommand_throws (command : Command) :
    Throws (fun _ => False) (releaseCommand command) := by
  have hdriver : ∀ call : Driver → DriverResult × Driver,
      Throws (fun _ => False) (onDriver call) := fun _ _ => trivial
  have hwarn : ∀ w, Throws (fun _ => False) (warn w) := fun _ _ => trivial
  unfold releaseCommand
  split
  · exact throws_pure _
  · refine throws_bind (hdriver _) fun destroyed => ?_
    cases destroyed with
    | ok _ =>
      refine throws_bind (hdriver _) fun destroyed => ?_
      cases destroyed with
      | ok _ => exact throws_pure _
      | error e => exact hwarn _
    | error e =>
      refine throws_bind (hwarn _) fun _ => throws_bind (hdriver _) fun destroyed => ?_
      cases destroyed with
      | ok _ => exact throws_pure _
      | error e => exact hwarn _

theorem releaseCommands_ends (commands : List Command) :
    Ends (releaseCommands commands) t (fun _ t' => Hushed t t') (fun _ _ => False) := by
  have hthrows : Throws (fun _ => False) (releaseCommands commands) := by
    induction commands with
    | nil => exact throws_pure _
    | cons command commands ih => exact throws_bind (releaseCommand_throws command) fun _ => ih
  exact ((releaseCommands_within commands t).and (hthrows t)).imp (fun _ _ h => h.1.hushed)
    (fun _ _ h => h.2)

theorem drainAndFree_took (h : t.registry.WellFormed) (take : Fallible Registry (Array Command)) :
    Ends (drainAndFree take) t (fun _ t' => Took t t.signalled t') (fun _ t' => Broke t t') := by
  unfold drainAndFree
  rw [ends_bind]
  refine (sweep_took h).imp ?_ fun _ _ hbroke => hbroke
  rintro _ _ ⟨pending, p, rfl, htakes, rfl⟩
  have hcounted : t.profile.counted ≤ p.counted := htakes.counted ▸ Nat.le_add_right _ _
  simp only [ends_bind, ends_onRegistry]
  -- a list that can not be freed stops the hook after the calls were counted
  refine ends_self.imp ?_ fun _ _ _ => ⟨hcounted, rfl, rfl⟩
  rintro commands r -
  refine (notify_took ((t.settled pending p).withRegistry r) htakes rfl rfl).imp_ok ?_
  intro _ t₂ htook
  exact (releaseCommands_ends _).imp_ok (fun _ _ hh => htook.hushed hh)

end GpuTrace.Tracing
