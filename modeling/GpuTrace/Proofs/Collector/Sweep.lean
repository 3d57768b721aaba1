import GpuTrace.Proofs.Collector.Order

/-!
# Sweeps — the pending calls are split by whether they are ready

`sweepLoop` is the sweep as a loop over positions in the list that it takes calls out of: it moves
on past a call that is not ready, and stays where it is if it took one out. In each turn the
calls from its position on get fewer, so it ends on every state, and it does what the sweep over
the calls that were pending in the beginning does (`sweepLoop_zero`).

Let the driver answer for each pending call (`Answered`), and let the ready ones finish one after
the other (`Finalizes`). Then, and only then, the sweep ends with an answer: it finishes these, in
order, keeps the others, in order, and touches nothing else (`sweep_eq_ok_iff`). A sweep over
calls of which none is ready changes nothing (`sweep_waiting`).
-/

namespace GpuTrace.Tracing

open Fallible Profile

variable {t t' : Tracing} {before after calls : List Call} {call : Call}

/-! ## The loop -/

theorem complete_takes {finish : KernelFinish} (hp : t.registry.pending = before ++ call :: after)
    (h : complete before.length t = .ok finish t') : ∃ p, t' = t.settled (before ++ after) p := by
  have hends : Ends (complete before.length) t (fun _ t' => ∃ p, t' = t.settled (before ++ after) p)
      (fun _ _ => True) := by
    cases hc : t.registry.command call.command with
    | error lost => exact (ends_complete_of_lost hp hc).mpr trivial
    | ok c =>
      rw [ends_complete hp hc]
      cases t.driver.kernelTimestamp c.event with
      | error e => trivial
      | ok timestamp => exact ends_self.imp (fun _ p _ => ⟨p, rfl⟩) fun _ _ _ => trivial
  exact hends.of_ok h

theorem pending_split {index : Nat} (h : t.registry.pending[index]? = some call) :
    ∃ before after, t.registry.pending = before ++ call :: after ∧ before.length = index := by
  obtain ⟨hlt, rfl⟩ := List.getElem?_eq_some_iff.mp h
  refine ⟨t.registry.pending.take index, t.registry.pending.drop (index + 1), ?_, ?_⟩
  · simp
  · rw [List.length_take]
    omega

theorem complete_shrinks {index : Nat} {finish : KernelFinish}
    (hcall : t.registry.pending[index]? = some call) (h : complete index t = .ok finish t') :
    t'.registry.pending.length + 1 = t.registry.pending.length := by
  obtain ⟨before, after, hp, rfl⟩ := pending_split hcall
  obtain ⟨p, rfl⟩ := complete_takes hp h
  rw [hp]
  simp [settled, withRegistry, withProfile, registry]
  omega

/-- The sweep from a position on, with the notices of the calls that it took out. -/
def sweepLoop (index : Nat) (finished : List KernelFinish) (t : Tracing) :
    EStateM.Result Fault Tracing (List KernelFinish) :=
  match _ : t.registry.pending[index]? with
  | none => .ok finished t
  | some call =>
    match t.registry.command call.command with
    | .error e => .error e t
    | .ok command =>
      match t.driver.eventStatus command.event with
      | .ready =>
        match _ : complete index t with
        | .ok finish t' => sweepLoop index (finished ++ [finish]) t'
        | .error e t' => .error e t'
      | .notReady => sweepLoop (index + 1) finished t
      | .failed e => .error (.unexpectedStatus command.event e) t
termination_by t.registry.pending.length - index
decreasing_by
  · have hcall := ‹t.registry.pending[index]? = some _›
    have hlt := (List.getElem?_eq_some_iff.mp hcall).1
    have hshrinks := complete_shrinks hcall ‹complete index t = .ok _ _›
    omega
  · have hcall := ‹t.registry.pending[index]? = some _›
    have hlt := (List.getElem?_eq_some_iff.mp hcall).1
    omega

/-- One turn of the loop, at a call that leads to a command. -/
theorem sweepLoop_turn {index : Nat} {c : Command} (finished : List KernelFinish)
    (hcall : t.registry.pending[index]? = some call)
    (hc : t.registry.command call.command = .ok c) :
    match t.driver.eventStatus c.event with
    | .ready => Ends (complete index) t
        (fun finish t' => sweepLoop index finished t = sweepLoop index (finished ++ [finish]) t')
        (fun e t' => sweepLoop index finished t = .error e t')
    | .notReady => sweepLoop index finished t = sweepLoop (index + 1) finished t
    | .failed e => sweepLoop index finished t = .error (.unexpectedStatus c.event e) t := by
  generalize hloop : sweepLoop index finished t = result
  rw [sweepLoop] at hloop
  split at hloop
  · rename_i hnone
    rw [hcall] at hnone
    cases hnone
  · rename_i call' hcall'
    obtain rfl : call = call' := Option.some.inj (hcall.symm.trans hcall')
    simp only [hc] at hloop
    subst hloop
    cases t.driver.eventStatus c.event with
    | ready =>
      dsimp only
      split
      · exact ends_of_ok ‹_› rfl
      · exact ends_of_error ‹_› rfl
    | notReady => rfl
    | failed e => rfl

/-- The loop goes through the calls from its position on, and stops where they stop it. -/
theorem sweepLoop_follows (kept : List Call) {rest : List Call} (finished : List KernelFinish)
    (hp : t.registry.pending = kept ++ rest) :
    Ends (sweepFrom kept.length rest) t
      (fun fs t' => sweepLoop kept.length finished t = .ok (finished ++ fs) t')
      (fun e t' => sweepLoop kept.length finished t = .error e t') := by
  -- A call that is taken out leaves the position, one that is kept moves it by one.
  induction rest generalizing kept finished t with
  | nil =>
    have hnone : t.registry.pending[kept.length]? = none := by simp [hp]
    rw [sweepFrom, ends_pure, sweepLoop, List.append_nil]
    split
    · rfl
    · simp_all
  | cons call rest ih =>
    have hcall : t.registry.pending[kept.length]? = some call := by simp [hp]
    cases hc : t.registry.command call.command with
    | error lost =>
      unfold sweepFrom
      simp only [ends_bind, ends_get, ends_lift]
      rw [hc]
      dsimp only
      rw [sweepLoop]
      split
      · simp_all
      · simp_all
    | ok c =>
      have hturn := sweepLoop_turn finished hcall hc
      rw [ends_sweepFrom_cons hc]
      cases hs : t.driver.eventStatus c.event with
      | failed e =>
        rw [hs] at hturn
        exact hturn
      | notReady =>
        rw [hs] at hturn
        dsimp only at hturn ⊢
        have hrest := ih (t := t) (kept ++ [call]) finished (by simp [hp])
        rw [List.length_append, List.length_singleton] at hrest
        rw [hturn]
        exact hrest
      | ready =>
        rw [hs] at hturn
        dsimp only at hturn ⊢
        refine (ends_self.and hturn).imp ?_ fun _ _ h => h.2
        rintro finish t' ⟨hdone, hturn⟩
        obtain ⟨p, rfl⟩ := complete_takes hp hdone
        refine (ih kept (finished ++ [finish]) rfl).imp ?_ ?_
        · intro fs t' hrest
          refine hturn.trans (hrest.trans ?_)
          rw [List.append_assoc]
          rfl
        · intro e t' hrest
          exact hturn.trans hrest

/-- **The loop is the sweep**: from the first position on, it ends as the sweep does. -/
theorem sweepLoop_zero (t : Tracing) : sweepLoop 0 [] t = sweep t := by
  have hfollows := sweepLoop_follows (t := t) [] [] rfl
  have hsweep : sweep t = sweepFrom 0 t.registry.pending t := by
    unfold sweep
    exact bind_of_ok rfl
  rw [hsweep]
  cases hresult : sweepFrom 0 t.registry.pending t with
  | ok fs t' => exact hfollows.of_ok hresult
  | error e t' => exact hfollows.of_error hresult

/-! ## What a sweep leaves -/

/-- The driver answers for the event of each pending call: it is not ready, or ready with its
ticks. -/
def Answered (t : Tracing) : Prop :=
  ∀ call ∈ t.registry.pending, ∀ c, t.registry.command call.command = .ok c →
    t.driver.eventStatus c.event = .notReady ∨
      t.driver.eventStatus c.event = .ready ∧
        ∃ timestamp, t.driver.kernelTimestamp c.event = .ok timestamp

def ready (t : Tracing) (calls : List Call) : List Call :=
  calls.filter fun call => t.isReady call.command

/-- The calls finish one after the other, each with the ticks of its event. -/
inductive Finalizes (t : Tracing) : Profile → List Call → List KernelFinish → Profile → Prop
  | nil (p : Profile) : Finalizes t p [] [] p
  | cons {p p₁ p₂ : Profile} {call : Call} {calls : List Call} {c : Command}
      {timestamp : KernelTimestamp} {finish : KernelFinish} {finishes : List KernelFinish}
      (found : t.registry.command call.command = .ok c)
      (ticks : t.driver.kernelTimestamp c.event = .ok timestamp)
      (finalized : Profile.finish call c timestamp p = .ok finish p₁)
      (rest : Finalizes t p₁ calls finishes p₂) :
      Finalizes t p (call :: calls) (finish :: finishes) p₂

theorem Finalizes.history {p p' : Profile} {finishes : List KernelFinish}
    (h : t.Finalizes p calls finishes p') (hready : ∀ call ∈ calls, t.isReady call.command = true) :
    ∃ history, t.FinishedAs calls history ∧ finishes = history.map (·.notice) ∧
      AddsAll p history p' := by
  induction h with
  | nil p => exact ⟨[], .nil, rfl, .nil p⟩
  | @cons p p₁ p₂ call calls c timestamp finish finishes found ticks finalized _ ih =>
    obtain ⟨hcall, hcalls⟩ := List.forall_mem_cons.mp hready
    obtain ⟨history, hfinished, rfl, hadds⟩ := ih hcalls
    obtain ⟨f, hf, rfl, hadd⟩ := (finish_adds call c timestamp).of_ok finalized
    have hstatus : t.driver.eventStatus c.event = .ready := by
      simpa [isReady, found] using hcall
    have hfinished' : t.finished? call = some f := by
      simp [finished?, found, hstatus, ticks, Except.toOption, hf]
    exact ⟨f :: history, .cons hfinished' hfinished, rfl, .cons hadd hadds⟩

theorem isReady_of_mem_ready (h : call ∈ t.ready calls) : t.isReady call.command = true :=
  (List.mem_filter.mp h).2

theorem Finalizes.notices {p p' : Profile} {finishes : List KernelFinish}
    (h : t.Finalizes p (t.ready calls) finishes p') :
    List.Forall₂ (Finishes t) (t.ready calls) finishes := by
  obtain ⟨history, hfinished, rfl, -⟩ := h.history fun _ => isReady_of_mem_ready
  exact hfinished.finishes

theorem FinishedAs.finalizes {p p' : Profile} {history : List Finished}
    (h : t.FinishedAs calls history) (hadds : AddsAll p history p') :
    t.Finalizes p calls (history.map (·.notice)) p' := by
  induction h generalizing p with
  | nil =>
    cases hadds
    exact .nil _
  | @cons call f calls history head _ ih =>
    cases hadds with
    | cons hadd hrest =>
      obtain ⟨rfl, found, -, ticks⟩ := finished?_cases head
      exact .cons found ticks hadd (ih hrest)

theorem Clear.finishedAs (h : t.Clear calls) :
    t.FinishedAs (t.ready calls) (calls.filterMap t.finished?) := by
  induction calls with
  | nil => exact .nil
  | cons call calls ih =>
    obtain ⟨hcall, hcalls⟩ := clear_cons.mp h
    rcases hcall with hwaits | ⟨f, hf⟩
    · have hnot := not_isReady_of_unsignalled hwaits
      rw [List.filterMap_cons_none (finished?_eq_none hnot), ready,
        List.filter_cons_of_neg (by simp [hnot])]
      exact ih hcalls
    · have hready := isReady_of_finished? hf
      rw [List.filterMap_cons_some hf, ready, List.filter_cons_of_pos (by simp [hready])]
      exact .cons hf (ih hcalls)

theorem Clear.answered (h : t.Clear t.registry.pending) : t.Answered := by
  intro call hcall c hc
  rcases h call hcall with hwaits | ⟨f, hf⟩
  · obtain ⟨c', hc', hstatus⟩ := unsignalled_iff.mp hwaits
    obtain rfl : c = c' := Except.ok.inj (hc.symm.trans hc')
    exact .inl hstatus
  · obtain ⟨-, hc', hstatus, hticks⟩ := finished?_cases hf
    obtain rfl : c = f.command := Except.ok.inj (hc.symm.trans hc')
    exact .inr ⟨hstatus, f.timestamp, hticks⟩

theorem FinishedAs.exists_of_mem {history : List Finished} (h : t.FinishedAs calls history)
    (hcall : call ∈ calls) : ∃ f, t.finished? call = some f := by
  induction h with
  | nil => cases hcall
  | @cons call' f calls history head _ ih =>
    rcases List.mem_cons.mp hcall with rfl | hrest
    · exact ⟨f, head⟩
    · exact ih hrest

/-- A pending call that the driver answers for waits, or is ready. -/
theorem Answered.cases (h : t.Answered) (hwf : t.registry.WellFormed)
    (hcall : call ∈ t.registry.pending) :
    t.Unsignalled call.command ∧ t.isReady call.command = false ∨
      ¬ t.Unsignalled call.command ∧ t.isReady call.command = true := by
  obtain ⟨c, hc, -⟩ := hwf.resolves call hcall
  rcases h call hcall c hc with hwaits | ⟨hready, -⟩
  · have hunsignalled : t.Unsignalled call.command := unsignalled_iff.mpr ⟨c, hc, hwaits⟩
    exact .inl ⟨hunsignalled, not_isReady_of_unsignalled hunsignalled⟩
  · refine .inr ⟨?_, by simp [isReady, hc, hready]⟩
    intro hunsignalled
    have hnot := not_isReady_of_unsignalled hunsignalled
    simp [isReady, hc, hready] at hnot

/-- The calls that a sweep keeps are those that wait. -/
theorem Answered.waiting_eq (h : t.Answered) (hwf : t.registry.WellFormed) :
    t.waiting t.registry.pending =
      t.registry.pending.filter fun call => t.Unsignalled call.command := by
  refine List.filter_congr fun call hcall => ?_
  rcases h.cases hwf hcall with ⟨hwaits, hready⟩ | ⟨hwaits, hready⟩
  · simp [hwaits, hready]
  · simp [hwaits, hready]

theorem Answered.mem_waiting (h : t.Answered) (hwf : t.registry.WellFormed) :
    call ∈ t.waiting t.registry.pending ↔
      call ∈ t.registry.pending ∧ t.Unsignalled call.command := by
  rw [h.waiting_eq hwf, List.mem_filter, decide_eq_true_eq]

/-- **What a sweep does, and when.** It ends with an answer exactly if the driver answers for each
pending call and the ready ones finish one after the other; it finishes these and keeps the
others. -/
theorem sweep_eq_ok_iff {finishes : List KernelFinish} (hwf : t.registry.WellFormed) :
    sweep t = .ok finishes t' ↔
      t.Answered ∧ ∃ p, t.Finalizes t.profile (t.ready t.registry.pending) finishes p ∧
        t' = t.settled (t.waiting t.registry.pending) p := by
  have hclears : Ends sweep t _ _ := ends_bind.mpr (sweepFrom_clears [] hwf rfl)
  constructor
  · intro hsweep
    obtain ⟨hclear, p, hadds, rfl, rfl⟩ := hclears.of_ok hsweep
    exact ⟨hclear.answered, p, hclear.finishedAs.finalizes hadds, rfl⟩
  · rintro ⟨answered, p, finalizes, rfl⟩
    obtain ⟨history, hfinished, rfl, hadds⟩ := finalizes.history fun _ => isReady_of_mem_ready
    have hclear : t.Clear t.registry.pending := by
      intro call hcall
      rcases answered.cases hwf hcall with ⟨hwaits, -⟩ | ⟨-, hready⟩
      · exact .inl hwaits
      · exact .inr (hfinished.exists_of_mem (List.mem_filter.mpr ⟨hcall, hready⟩))
    obtain rfl : history = t.signalled := FinishedAs.eq_filterMap hfinished
    refine eq_ok_iff_ends.mpr (hclears.imp ?_ fun _ _ hstops => hstops ⟨hclear, p, hadds⟩)
    rintro _ _ ⟨-, p', hadds', rfl, rfl⟩
    obtain rfl := hadds.unique hadds'
    exact ⟨rfl, rfl⟩

/-- A sweep over calls of which none is ready changes nothing. -/
theorem sweep_waiting (h : ∀ call ∈ t.registry.pending, t.Unsignalled call.command) :
    sweep t = .ok [] t := by
  refine eq_ok_iff_ends.mpr ?_
  unfold sweep
  simp only [ends_bind, ends_get]
  rw [← List.append_nil t.registry.pending, ends_sweepFrom_skip h]
  unfold sweepFrom
  exact ⟨rfl, rfl⟩

end GpuTrace.Tracing
