import GpuTrace.Proofs.Collector.Waiting
import GpuTrace.Proofs.Profile.Order

/-!
# Order of completion — single events before a sweep

A sweep ends with an answer exactly if each pending call waits or can be finished and the
finished ones can be added to the profile one after the other (`processCalls_clears`). Then any
completion of single events before it ends with an answer too, and leaves less of the same work
(`Partway.processEvent`): what is still signalled can be added in its turn, because calls can be
added in every order. A sweep at the end finds the same calls waiting and makes a profile that is
alike (`Partway.processCalls`).
-/

namespace GpuTrace.Tracing

open Fallible Profile

variable {t t₀ t' : Tracing}

/-- Each of the calls waits for its event, or its event is ready and it can be finished. -/
def Clear (t : Tracing) (calls : List Call) : Prop :=
  ∀ call ∈ calls, t.Unsignalled call.command ∨ ∃ f, t.finished? call = some f

def waiting (t : Tracing) (calls : List Call) : List Call :=
  calls.filter fun call => !t.isReady call.command

theorem isReady_of_finished? {call : Call} {f : Finished} (h : t.finished? call = some f) :
    t.isReady call.command = true := by
  cases hready : t.isReady call.command with
  | true => rfl
  | false =>
    rw [finished?_eq_none hready] at h
    cases h

theorem not_isReady_of_unsignalled {ref : CommandRef} (h : t.Unsignalled ref) :
    t.isReady ref = false := by
  obtain ⟨c, hc, hstatus⟩ := unsignalled_iff.mp h
  simp [isReady, hc, hstatus]

theorem event_of_waitsFor {event : EventHandle} {call : Call} {c : Command}
    (h : t.registry.waitsFor event call = true) (hc : t.registry.command call.command = .ok c) :
    c.event = event := by
  simpa [Registry.waitsFor, hc] using h

theorem clear_cons {call : Call} {calls : List Call} : t.Clear (call :: calls) ↔
    (t.Unsignalled call.command ∨ ∃ f, t.finished? call = some f) ∧ t.Clear calls :=
  List.forall_mem_cons

/-! ## One call -/

/-- A call that is ready is completed if it can be finished and added, and not otherwise. -/
theorem complete_clears (h : t.registry.WellFormed) {before after : List Call} {call : Call}
    (hp : t.registry.pending = before ++ call :: after) (ready : t.isReady call.command = true) :
    Ends (complete before.length) t
      (fun finish t' => ∃ f p, t.finished? call = some f ∧ finish = f.notice ∧
        Adds t.profile f p ∧ t' = t.settled (before ++ after) p)
      (fun _ _ => ∀ f, t.finished? call = some f → ∀ p, ¬ Adds t.profile f p) := by
  obtain ⟨c, hc, -⟩ := h.resolves call (by simp [hp])
  have hstatus : t.driver.eventStatus c.event = .ready := by
    simpa [isReady, hc] using ready
  rw [ends_complete hp hc]
  cases htimestamp : t.driver.kernelTimestamp c.event with
  | error e =>
    intro f hf
    obtain ⟨-, hc', -, htimestamp'⟩ := finished?_cases hf
    obtain rfl : c = f.command := Except.ok.inj (hc.symm.trans hc')
    rw [htimestamp] at htimestamp'
    cases htimestamp'
  | ok timestamp =>
    have hf : t.finished? call = Finished.of? call c timestamp := by
      simp [finished?, hc, hstatus, htimestamp, Except.toOption]
    rw [hf]
    refine (finish_adds call c timestamp).imp ?_ fun _ _ hstops => hstops
    rintro finish p ⟨f, hfinished, hnotice, hadds⟩
    exact ⟨f, p, hfinished, hnotice, hadds, rfl⟩

/-! ## A sweep -/

/-- A sweep completes the calls that are ready if all calls are clear and can be added, and stops
otherwise. -/
theorem sweepFrom_clears (kept : List Call) {rest : List Call} (h : t.registry.WellFormed)
    (hp : t.registry.pending = kept ++ rest) :
    Ends (sweepFrom kept.length rest) t
      (fun finished t' => t.Clear rest ∧ ∃ p, AddsAll t.profile (rest.filterMap t.finished?) p ∧
        finished = (rest.filterMap t.finished?).map (·.notice) ∧
        t' = t.settled (kept ++ t.waiting rest) p)
      (fun _ _ => ¬ (t.Clear rest ∧ ∃ p, AddsAll t.profile (rest.filterMap t.finished?) p)) := by
  -- The rest of the sweep starts from another profile; what is ready and finished is the same.
  induction rest generalizing kept t with
  | nil =>
    refine ⟨List.forall_mem_nil _, t.profile, .nil _, rfl, ?_⟩
    rw [waiting, List.filter_nil, ← hp]
    rfl
  | cons call rest ih =>
    obtain ⟨c, hc, -⟩ := h.resolves call (by simp [hp])
    rw [ends_sweepFrom_cons hc, clear_cons]
    cases hs : t.driver.eventStatus c.event with
    | failed e =>
      rintro ⟨⟨hcall, -⟩, -⟩
      rcases hcall with hwaits | ⟨f, hf⟩
      · obtain ⟨c', hc', hstatus⟩ := unsignalled_iff.mp hwaits
        obtain rfl : c = c' := Except.ok.inj (hc.symm.trans hc')
        rw [hs] at hstatus
        cases hstatus
      · have hready := isReady_of_finished? hf
        simp [isReady, hc, hs] at hready
    | notReady =>
      have hwaits : t.Unsignalled call.command := unsignalled_iff.mpr ⟨c, hc, hs⟩
      have hready := not_isReady_of_unsignalled hwaits
      have hpass : t.waiting (call :: rest) = call :: t.waiting rest :=
        List.filter_cons_of_pos (by simp [hready])
      have hrest := ih (kept ++ [call]) h (by simp [hp])
      rw [List.length_append, List.length_singleton] at hrest
      rw [List.filterMap_cons_none (finished?_eq_none hready), hpass]
      refine hrest.imp ?_ ?_
      · rintro _ _ ⟨hcalls, p, hadds, rfl, rfl⟩
        exact ⟨⟨.inl hwaits, hcalls⟩, p, hadds, rfl, by rw [List.append_assoc]; rfl⟩
      · rintro _ _ hstops ⟨⟨-, hcalls⟩, hadds⟩
        exact hstops ⟨hcalls, hadds⟩
    | ready =>
      have hready : t.isReady call.command = true := by simp [isReady, hc, hs]
      refine (complete_clears h hp hready).imp ?_ ?_
      · rintro _ _ ⟨f, p, hf, rfl, hadds, rfl⟩
        have hpass : t.waiting (call :: rest) = t.waiting rest :=
          List.filter_cons_of_neg (by simp [hready])
        rw [List.filterMap_cons_some hf, hpass]
        refine (ih kept (wellFormed_settled hp h p) rfl).imp ?_ ?_
        · rintro _ _ ⟨hcalls, p', haddsAll, rfl, rfl⟩
          exact ⟨⟨.inr ⟨f, hf⟩, hcalls⟩, p', .cons hadds haddsAll, rfl, rfl⟩
        · rintro _ _ hstops ⟨⟨-, hcalls⟩, p', haddsAll⟩
          cases haddsAll with
          | cons head tail =>
            obtain rfl := hadds.unique head
            exact hstops ⟨hcalls, p', tail⟩
      · rintro _ _ hstops ⟨⟨hcall, -⟩, p', haddsAll⟩
        rcases hcall with hwaits | ⟨f, hf⟩
        · rw [not_isReady_of_unsignalled hwaits] at hready
          cases hready
        · rw [List.filterMap_cons_some hf] at haddsAll
          cases haddsAll with
          | cons head tail => exact hstops f hf _ head

structure Cleared (t t' : Tracing) : Prop where
  clear : t.Clear t.registry.pending
  adds : AddsAll t.profile t.signalled t'.profile
  registry : t'.registry = { t.registry with pending := t.waiting t.registry.pending }
  took : Took t t.signalled t'

/-- **What a sweep needs.** A sweep ends with an answer exactly if each pending call waits or can be
finished, and the finished ones can be added to the profile one after the other. -/
theorem processCalls_clears (h : t.registry.WellFormed) :
    Ends processCalls t (fun _ t' => Cleared t t')
      (fun _ _ => ¬ (t.Clear t.registry.pending ∧ ∃ p, AddsAll t.profile t.signalled p)) := by
  have hcalls : Ends processCalls t
      (fun _ t' => t.Clear t.registry.pending ∧ AddsAll t.profile t.signalled t'.profile ∧
        t'.registry = { t.registry with pending := t.waiting t.registry.pending })
      (fun _ _ => ¬ (t.Clear t.registry.pending ∧ ∃ p, AddsAll t.profile t.signalled p)) := by
    unfold processCalls sweep
    simp only [ends_bind, ends_get]
    refine (sweepFrom_clears [] h rfl).imp ?_ fun _ _ hstops => hstops
    rintro _ _ ⟨hclear, p, hadds, rfl, rfl⟩
    simp only [ends_pure]
    refine (notify_told _).imp_ok ?_
    rintro - _ ⟨notices, rfl, -⟩
    exact ⟨hclear, hadds, rfl⟩
  refine (hcalls.and (processCalls_took h)).imp ?_ fun _ _ hstops => hstops.1
  rintro _ _ ⟨⟨hclear, hadds, hregistry⟩, -, htook⟩
  exact ⟨hclear, hadds, hregistry, htook⟩

/-! ## Single events before the sweep -/

/-- Some calls of `t₀` that were ready are done; the sweep that is still to come makes a profile
like `p₀` with the rest of them. -/
def Partway (t₀ : Tracing) (p₀ : Profile) (t : Tracing) : Prop :=
  ∃ pending p journal done q, t = { t₀.settled pending p with journal } ∧
    t.registry.WellFormed ∧ t₀.Clear pending ∧
    t₀.waiting pending = t₀.waiting t₀.registry.pending ∧
    (done ++ pending.filterMap t₀.finished?).Perm t₀.signalled ∧
    AddsAll p (pending.filterMap t₀.finished?) q ∧ Alike p₀ q ∧
    told journal = told t₀.journal ++ if t₀.collector.notifies then done.map (·.notice) else []

/-- Before the first event everything is still to come. -/
theorem Partway.start (h : t.registry.WellFormed) (hcleared : Cleared t t') :
    Partway t t'.profile t :=
  ⟨t.registry.pending, t.profile, t.journal, [], t'.profile, rfl, h, hcleared.clear, rfl, .refl _,
    hcleared.adds, .refl _, by cases t.collector.notifies <;> exact (List.append_nil _).symm⟩

/-- A single event does not stop, and completes one call of those that are left or none. -/
theorem Partway.processEvent {p₀ : Profile} (h : Partway t₀ p₀ t) (event : EventHandle) :
    Ends (processEvent event) t (fun _ t' => Partway t₀ p₀ t') (fun _ _ => False) := by
  have hsame := h
  obtain ⟨pending, p, journal, done, q, rfl, hwf, hclear, hwaiting, hperm, hadds, halike,
    htold⟩ := h
  unfold Tracing.processEvent
  rw [ends_bind]
  refine ends_completeEvent hwf (fun _ => hsame) fun before call after hp hwaits _ => ?_
  obtain rfl : pending = before ++ call :: after := hp
  rcases hclear call (by simp) with hunsignalled | ⟨f, hf⟩
  · obtain ⟨c, hc, hstatus⟩ := unsignalled_iff.mp hunsignalled
    obtain rfl : c.event = event := event_of_waitsFor hwaits hc
    have hstatus' : ({ t₀.settled (before ++ call :: after) p with
        journal } : Tracing).driver.eventStatus c.event = .notReady := hstatus
    rw [hstatus']
    exact hsame
  · obtain ⟨-, hc, hstatus, -⟩ := finished?_cases hf
    obtain rfl : f.command.event = event := event_of_waitsFor hwaits hc
    have hsplit : ((before ++ call :: after).filterMap t₀.finished?).Perm
        (f :: (before ++ after).filterMap t₀.finished?) := by
      rw [List.filterMap_append, List.filterMap_cons_some hf, List.filterMap_append]
      exact List.perm_middle
    -- The call stands anywhere among those that are left, but it can be added as the first.
    obtain ⟨q', haddsAll, halike'⟩ := hadds.perm hsplit
    have hstatus' : ({ t₀.settled (before ++ call :: after) p with
        journal } : Tracing).driver.eventStatus f.command.event = .ready := hstatus
    rw [hstatus']
    cases haddsAll with
    | cons head tail =>
      refine (complete_clears hwf rfl (isReady_of_finished? hf)).imp ?_ ?_
      · rintro _ _ ⟨f', p₁, hf', rfl, hadds', rfl⟩
        obtain rfl : f = f' := Option.some.inj (hf.symm.trans hf')
        obtain rfl := head.unique hadds'
        simp only [ends_bind, ends_pure]
        refine (notify_told _).imp_ok ?_
        rintro - _ ⟨notices, rfl, htold'⟩
        have hpass : t₀.waiting (before ++ after) = t₀.waiting (before ++ call :: after) := by
          simp [waiting, List.filter_append, isReady_of_finished? hf]
        refine ⟨before ++ after, _, _, done ++ [f], q', rfl, ?_, fun call' hcall' => ?_,
          hpass.trans hwaiting, ?_, tail, halike.trans halike', ?_⟩
        · exact wellFormed_settled rfl hwf p
        · exact hclear call' (List.Sublist.mem hcall' ((List.sublist_cons_self _ _).append_left _))
        · rw [List.append_assoc]
          exact (hsplit.symm.append_left done).trans hperm
        · refine htold'.trans ?_
          show Tracing.told journal ++ (if t₀.collector.notifies then [f.notice] else []) = _
          rw [htold]
          cases t₀.collector.notifies <;> simp
      · intro _ _ hstops
        exact hstops f hf _ head

/-- What two ways of completing calls have in common: the same calls wait, the statistics under each
name are the same, and the intervals and the notices are the same up to their order. -/
structure Agree (t₀ t₁ t₂ : Tracing) : Prop where
  registry : t₂.registry = t₁.registry
  profile : Alike t₁.profile t₂.profile
  told : ∃ finished₁ finished₂, told t₁.journal = Tracing.told t₀.journal ++ finished₁ ∧
    Tracing.told t₂.journal = Tracing.told t₀.journal ++ finished₂ ∧ finished₂.Perm finished₁

/-- The sweep at the end does the rest, and agrees with one that does everything. -/
theorem Partway.processCalls {p₀ : Profile} (h : Partway t₀ p₀ t) {t₁ : Tracing}
    (hcleared : Cleared t₀ t₁) (hp₀ : t₁.profile = p₀) :
    Ends processCalls t (fun _ t₂ => Agree t₀ t₁ t₂) (fun _ _ => False) := by
  obtain ⟨pending, p, journal, done, q, rfl, hwf, hclear, hwaiting, hperm, hadds, halike,
    htold⟩ := h
  refine (processCalls_clears hwf).imp ?_ fun _ _ hstops => hstops ⟨hclear, q, hadds⟩
  intro _ t₂ h₂
  have hq : t₂.profile = q := h₂.adds.unique hadds
  refine ⟨?_, hp₀ ▸ hq ▸ halike, ?_⟩
  · rw [h₂.registry, hcleared.registry, ← hwaiting]
    rfl
  · have htold₂ : told t₂.journal = told journal ++
        if t₀.collector.notifies then (pending.filterMap t₀.finished?).map (·.notice) else [] :=
      h₂.took.told
    rw [htold, List.append_assoc] at htold₂
    refine ⟨_, _, hcleared.took.told, htold₂, ?_⟩
    cases t₀.collector.notifies with
    | false => exact .refl _
    | true =>
      simp only [if_true]
      rw [← List.map_append]
      exact hperm.map _

end GpuTrace.Tracing
