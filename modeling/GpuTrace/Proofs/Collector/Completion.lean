import GpuTrace.Proofs.Collector.Frame
import GpuTrace.Proofs.Profile.Finish
import GpuTrace.Proofs.Profile.History
import GpuTrace.Proofs.Registry.WellFormed
import Mathlib.Data.List.Forall2
import Mathlib.Data.Option.Basic

/-!
# Completion — which calls a sweep and a single event complete

On a well-formed registry a sweep splits the pending calls by whether their events
are signalled: it completes one part and keeps the other, both in order
(`sweepFrom_ends`). A single event completes the first call that waits for it
(`completeEvent_ends`). Both are `Settles`: of each command, the calls that went are
the first ones, since all calls of a command wait for the same event.

If one `Stops`, the driver refused to answer for the event of a call, or finishing a call did not
work out; none of these faults is about a reference. `ends_complete`, `ends_sweepFrom_cons` and
`ends_completeEvent` say what a completion looks at; proofs about completions go through them.
-/

namespace GpuTrace

open Fallible

def Fault.IsRefusal : Fault → Prop
  | .unexpectedStatus .. | .timestampUnavailable _ => True
  | _ => False

theorem Fault.OfFinish.not_refusal {e : Fault} (h : e.OfFinish) : ¬ e.IsRefusal := by
  cases e <;> first | exact id | cases h

/-! ## The call that waits for an event -/

def Registry.waitsFor (r : Registry) (event : EventHandle) (call : Call) : Bool :=
  match r.command call.command with
  | .ok c => c.event = event
  | .error _ => false

theorem Registry.waitsFor_eq_true {r : Registry} {event : EventHandle} {call : Call} :
    r.waitsFor event call = true ↔ ∃ c, r.command call.command = .ok c ∧ c.event = event := by
  unfold waitsFor
  cases r.command call.command <;> simp

/-- The look-up answers the position, counted from `position`, of the first call that waits for
the event. -/
theorem Registry.findFrom_cases {r : Registry} {event : EventHandle} {found : Option Nat} :
    ∀ {calls : List Call} {position : Nat}, r.findFrom event calls position = .ok found →
      found = none ∧ (∀ call ∈ calls, r.waitsFor event call = false) ∨
      ∃ before call after, found = some (position + before.length) ∧
        calls = before ++ call :: after ∧ r.waitsFor event call = true ∧
        ∀ call' ∈ before, r.waitsFor event call' = false
  | [], position, h => by
    cases h
    exact .inl ⟨rfl, by simp⟩
  | call :: rest, position, h => by
    unfold findFrom at h
    cases hc : r.command call.command with
    | error e =>
      rw [hc] at h
      cases h
    | ok c =>
      rw [hc] at h
      dsimp only at h
      by_cases he : c.event = event
      · rw [if_pos he] at h
        cases h
        exact .inr ⟨[], call, rest, rfl, rfl, by simp [waitsFor, hc, he], by simp⟩
      · have hnot : r.waitsFor event call = false := by simp [waitsFor, hc, he]
        rw [if_neg he] at h
        rcases findFrom_cases h with ⟨hnone, hrest⟩ | ⟨before, first, after, hfound, hsplit, hwaits,
          hbefore⟩
        · exact .inl ⟨hnone, List.forall_mem_cons.mpr ⟨hnot, hrest⟩⟩
        · refine .inr ⟨call :: before, first, after, ?_, by rw [hsplit]; rfl, hwaits,
            List.forall_mem_cons.mpr ⟨hnot, hbefore⟩⟩
          rw [hfound, List.length_cons, Nat.add_right_comm, Nat.add_assoc]

namespace Tracing

open Profile (TakesAll finish_throws)

variable {t : Tracing}

/-! ## Settling calls -/

def settled (t : Tracing) (pending : List Call) (p : Profile) : Tracing :=
  (t.withRegistry { t.registry with pending }).withProfile p

def isReady (t : Tracing) (ref : CommandRef) : Bool :=
  match t.registry.command ref with
  | .ok c => t.driver.eventStatus c.event = .ready
  | .error _ => false

theorem isReady_of_waitsFor {event : EventHandle} {call : Call}
    (h : t.registry.waitsFor event call = true) :
    t.isReady call.command = decide (t.driver.eventStatus event = .ready) := by
  obtain ⟨c, hc, rfl⟩ := Registry.waitsFor_eq_true.mp h
  simp [isReady, hc]

def Finishes (t : Tracing) (call : Call) (f : KernelFinish) : Prop :=
  ∃ c, t.registry.command call.command = .ok c ∧ f.id = callText c.kernelId call.callId

/-- The call as it finished, if its event is ready. -/
def finished? (t : Tracing) (call : Call) : Option Finished := do
  let command ← (t.registry.command call.command).toOption
  guard (t.driver.eventStatus command.event = .ready)
  let timestamp ← (t.driver.kernelTimestamp command.event).toOption
  Finished.of? call command timestamp

/-- These calls finished as in the history. -/
def FinishedAs (t : Tracing) : List Call → List Finished → Prop :=
  List.Forall₂ fun call f => t.finished? call = some f

theorem finished?_cases {call : Call} {f : Finished} (h : t.finished? call = some f) :
    f.call = call ∧ t.registry.command call.command = .ok f.command ∧
      t.driver.eventStatus f.command.event = .ready ∧
      t.driver.kernelTimestamp f.command.event = .ok f.timestamp := by
  unfold finished? at h
  simp only [Option.bind_eq_bind, Option.bind_eq_some_iff, Option.guard_eq_some'] at h
  obtain ⟨c, hc, -, hready, timestamp, htimestamp, hf⟩ := h
  obtain ⟨hcall, rfl, rfl⟩ := Finished.of?_cases hf
  exact ⟨hcall, mem_toOption.mp hc, hready, mem_toOption.mp htimestamp⟩

theorem finished?_eq_none {call : Call} (h : t.isReady call.command = false) :
    t.finished? call = none := by
  unfold isReady at h
  unfold finished?
  cases hc : t.registry.command call.command with
  | error e => rfl
  | ok c =>
    rw [hc] at h
    have hstatus : t.driver.eventStatus c.event ≠ .ready := by simpa using h
    simp [Except.toOption, hstatus]

/-- The calls that a history is of are ready, so it is the history of all calls around them. -/
theorem FinishedAs.eq_filterMap {calls : List Call} {history : List Finished}
    (h : t.FinishedAs (calls.filter fun call => t.isReady call.command) history) :
    history = calls.filterMap t.finished? := by
  induction calls generalizing history with
  | nil =>
    cases h
    rfl
  | cons call calls ih =>
    cases hready : t.isReady call.command with
    | false =>
      rw [List.filter_cons_of_neg (by simp [hready])] at h
      rw [List.filterMap_cons_none (finished?_eq_none hready)]
      exact ih h
    | true =>
      rw [List.filter_cons_of_pos (by simp [hready])] at h
      cases h with
      | cons head tail => rw [List.filterMap_cons_some head, ih tail]

theorem FinishedAs.finishes {calls : List Call} {history : List Finished}
    (h : t.FinishedAs calls history) :
    List.Forall₂ (Finishes t) calls (history.map (·.notice)) := by
  refine List.forall₂_map_right_iff.mpr (h.imp fun call f hf => ?_)
  obtain ⟨rfl, hc, -⟩ := finished?_cases hf
  exact ⟨f.command, hc, rfl⟩

/-! ## Faults -/

/-- The fault that stops a completion when the driver refuses to answer for the event of a call. -/
inductive Refuses (t : Tracing) (call : Call) : Fault → Prop
  | status {c e} (found : t.registry.command call.command = .ok c)
      (answer : t.driver.eventStatus c.event = .failed e) :
      Refuses t call (.unexpectedStatus c.event e)
  | ticks {c e} (found : t.registry.command call.command = .ok c)
      (ready : t.driver.eventStatus c.event = .ready)
      (answer : t.driver.kernelTimestamp c.event = .error e) :
      Refuses t call (.timestampUnavailable e)

def Stops (t : Tracing) (calls : List Call) (e : Fault) : Prop :=
  e.OfFinish ∨ ∃ call ∈ calls, t.Refuses call e

theorem Stops.not_dangling {calls : List Call} {e : Fault} (h : t.Stops calls e) :
    ¬ e.IsDangling := by
  rcases h with hfinish | ⟨call, -, hrefuses⟩
  · exact hfinish.not_dangling
  · cases hrefuses <;> exact id

theorem Stops.mono {calls calls' : List Call} {e : Fault} (h : t.Stops calls e)
    (hsub : calls ⊆ calls') : t.Stops calls' e :=
  h.imp_right fun ⟨call, hcall, hrefuses⟩ => ⟨call, hsub hcall, hrefuses⟩

/-- The driver answers for the same events after calls have settled. -/
theorem Stops.of_settled {calls pending : List Call} {p : Profile} {e : Fault}
    (h : (t.settled pending p).Stops calls e) : t.Stops calls e := by
  refine h.imp_right fun ⟨call, hcall, hrefuses⟩ => ⟨call, hcall, ?_⟩
  cases hrefuses with
  | status found answer => exact .status found answer
  | ticks found ready answer => exact .ticks found ready answer

/-- The driver refuses nothing if it is regular and the events of the calls are alive. -/
theorem Stops.not_refusal {calls : List Call} {e : Fault} (h : t.Stops calls e)
    (hregular : t.driver.Regular)
    (halive : ∀ call ∈ calls, ∀ c, t.registry.command call.command = .ok c →
      t.driver.isAlive c.event = true) : ¬ e.IsRefusal := by
  rcases h with hfinish | ⟨call, hcall, hrefuses⟩
  · exact hfinish.not_refusal
  · cases hrefuses with
    | @status c e found answer =>
      rcases hregular.answers (halive call hcall c found) with hwaits | ⟨hready, -⟩
      · rw [hwaits] at answer
        cases answer
      · rw [hready] at answer
        cases answer
    | @ticks c e found ready answer =>
      rcases hregular.answers (halive call hcall c found) with hwaits | ⟨-, timestamp, hticks⟩
      · rw [hwaits] at ready
        cases ready
      · rw [hticks] at answer
        cases answer

/-! ## One call -/

section First

variable {p : Call → Bool} {calls before after : List Call} {call : Call}
  (hcalls : calls = before ++ call :: after) (hfirst : p call = true)
  (hbefore : ∀ call' ∈ before, p call' = false)

include hcalls hfirst hbefore

theorem find?_of_first : calls.find? p = some call :=
  List.find?_eq_some_iff_append.mpr
    ⟨hfirst, before, after, hcalls, fun call' hcall' => by simp [hbefore call' hcall']⟩

theorem eraseP_of_first : calls.eraseP p = before ++ after := by
  rw [hcalls, List.eraseP_append_right _ fun call' hcall' => by simp [hbefore call' hcall'],
    List.eraseP_cons_of_pos hfirst]

end First

section Complete

variable {before after : List Call} {call : Call} {c : Command}
  (hp : t.registry.pending = before ++ call :: after)

include hp

theorem eraseIdx_of_pending : t.registry.pending.eraseIdx before.length = before ++ after := by
  simp [hp, List.eraseIdx_append_of_length_le]

theorem wellFormed_settled (h : t.registry.WellFormed) (p : Profile) :
    (t.settled (before ++ after) p).registry.WellFormed := by
  have found : t.registry.pending[before.length]? = some call := by simp [hp]
  rw [← eraseIdx_of_pending hp]
  exact h.move (.take found)

theorem removePending_of_pending :
    Registry.removePending before.length t.registry =
      .ok call { t.registry with pending := before ++ after } := by
  simp [Registry.removePending, hp, List.eraseIdx_append_of_length_le]

/-- A call that leads to no command is taken out all the same. -/
theorem ends_complete_of_lost {lost : Fault} (hc : t.registry.command call.command = .error lost)
    {Q : KernelFinish → Tracing → Prop} {E : Fault → Tracing → Prop} :
    Ends (complete before.length) t Q E ↔ E lost (t.settled (before ++ after) t.profile) := by
  have hc' : (t.withRegistry { t.registry with pending := before ++ after }).registry.command
      call.command = .error lost := hc
  unfold complete
  simp only [ends_bind, ends_onRegistry]
  rw [ends_iff_of_ok (removePending_of_pending hp)]
  simp only [ends_get, ends_lift]
  rw [hc']
  rfl

/-- A call is taken out first, and then finished with the ticks of its event. -/
theorem ends_complete (hc : t.registry.command call.command = .ok c)
    {Q : KernelFinish → Tracing → Prop} {E : Fault → Tracing → Prop} :
    Ends (complete before.length) t Q E ↔
      match t.driver.kernelTimestamp c.event with
      | .error e => E (.timestampUnavailable e) (t.settled (before ++ after) t.profile)
      | .ok timestamp => Ends (Profile.finish call c timestamp) t.profile
          (fun f p => Q f (t.settled (before ++ after) p))
          (fun e p => E e (t.settled (before ++ after) p)) := by
  have hc' : (t.withRegistry { t.registry with pending := before ++ after }).registry.command
      call.command = .ok c := hc
  unfold complete
  simp only [ends_bind, ends_onRegistry]
  rw [ends_iff_of_ok (removePending_of_pending hp)]
  simp only [ends_get, ends_lift]
  rw [hc', show (t.withRegistry { t.registry with pending := before ++ after }).driver = t.driver
    from rfl]
  dsimp only
  cases t.driver.kernelTimestamp c.event with
  | error e => rfl
  | ok timestamp => exact ends_onProfile

end Complete

theorem complete_ends (h : t.registry.WellFormed) {before after : List Call} {call : Call}
    (hp : t.registry.pending = before ++ call :: after) (ready : t.isReady call.command = true) :
    Ends (complete before.length) t
      (fun finish t' => ∃ f p, t.finished? call = some f ∧ finish = f.notice ∧
        t.profile.Takes f p ∧ t' = t.settled (before ++ after) p)
      (fun e t' => t.Stops [call] e ∧ ∃ p, t.profile.counted ≤ p.counted ∧
        t' = t.settled (before ++ after) p) := by
  obtain ⟨c, hc, -⟩ := h.resolves call (by simp [hp])
  have hstatus : t.driver.eventStatus c.event = .ready := by
    simpa [isReady, hc] using ready
  rw [ends_complete hp hc]
  cases htimestamp : t.driver.kernelTimestamp c.event with
  | error e =>
    exact ⟨.inr ⟨call, List.mem_cons_self, .ticks hc hstatus htimestamp⟩, t.profile,
      Nat.le_refl _, rfl⟩
  | ok timestamp =>
    have hf : t.finished? call = Finished.of? call c timestamp := by
      simp [finished?, hc, hstatus, htimestamp, Except.toOption]
    rw [hf]
    refine ((Profile.finish_ends call c timestamp).and (finish_throws call c timestamp _)).imp
      ?_ ?_
    · rintro finish p ⟨⟨f, hfinished, hnotice, htakes⟩, -⟩
      exact ⟨f, p, hfinished, hnotice, htakes, rfl⟩
    · rintro e p ⟨hcounted, he⟩
      exact ⟨.inl he, p, hcounted, rfl⟩

/-! ## A sweep -/

/-- What a sweep does with a call depends on the status of its event. -/
theorem ends_sweepFrom_cons {index : Nat} {call : Call} {rest : List Call} {c : Command}
    (hc : t.registry.command call.command = .ok c) {Q : List KernelFinish → Tracing → Prop}
    {E : Fault → Tracing → Prop} :
    Ends (sweepFrom index (call :: rest)) t Q E ↔
      match t.driver.eventStatus c.event with
      | .ready => Ends (complete index) t
          (fun f t' => Ends (sweepFrom index rest) t' (fun fs t'' => Q (f :: fs) t'') E) E
      | .notReady => Ends (sweepFrom (index + 1) rest) t Q E
      | .failed e => E (.unexpectedStatus c.event e) t := by
  conv_lhs => unfold sweepFrom
  simp only [ends_bind, ends_get, ends_lift]
  rw [hc]
  dsimp only
  cases t.driver.eventStatus c.event with
  | ready => simp only [ends_bind, ends_pure]
  | notReady => rfl
  | failed e => rfl

theorem sweepFrom_ends (kept : List Call) {rest : List Call} (h : t.registry.WellFormed)
    (hp : t.registry.pending = kept ++ rest) :
    Ends (sweepFrom kept.length rest) t
      (fun finished t' => ∃ history p,
        t.FinishedAs (rest.filter fun call => t.isReady call.command) history ∧
        finished = history.map (·.notice) ∧ TakesAll t.profile history p ∧
        t' = t.settled (kept ++ rest.filter fun call => !t.isReady call.command) p)
      (fun e t' => t.Stops rest e ∧ ∃ pending p, t.profile.counted ≤ p.counted ∧
        t' = t.settled pending p) := by
  induction rest generalizing kept t with
  | nil =>
    refine ⟨[], t.profile, .nil, rfl, .nil _, ?_⟩
    rw [List.filter_nil, ← hp]
    rfl
  | cons call rest ih =>
    obtain ⟨c, hc, -⟩ := h.resolves call (by simp [hp])
    rw [ends_sweepFrom_cons hc]
    cases hs : t.driver.eventStatus c.event with
    | failed e =>
      exact ⟨.inr ⟨call, List.mem_cons_self, .status hc hs⟩, t.registry.pending, t.profile,
        Nat.le_refl _, rfl⟩
    | notReady =>
      have hready : t.isReady call.command = false := by simp [isReady, hc, hs]
      have hrest := ih (kept ++ [call]) h (by simp [hp])
      rw [List.length_append, List.length_singleton] at hrest
      simp only [List.filter_cons, hready, Bool.not_false, if_true, Bool.false_eq_true, if_false]
      rw [List.append_cons]
      exact hrest.imp (fun _ _ h => h) fun _ _ he =>
        ⟨he.1.mono (List.subset_cons_self _ _), he.2⟩
    | ready =>
      have hready : t.isReady call.command = true := by simp [isReady, hc, hs]
      refine (complete_ends h hp hready).imp ?_ ?_
      · rintro _ _ ⟨f, p, hf, rfl, htakes, rfl⟩
        refine (ih kept (wellFormed_settled hp h p) rfl).imp ?_ ?_
        · rintro _ _ ⟨history, p', hhistory, rfl, htakesAll, rfl⟩
          simp only [List.filter_cons, hready, Bool.not_true, if_true, Bool.false_eq_true,
            if_false]
          exact ⟨f :: history, p', .cons hf hhistory, rfl, .cons htakes htakesAll, rfl⟩
        · rintro e _ ⟨he, pending, p', hcounted, rfl⟩
          have hcount : t.profile.counted ≤ p.counted := htakes.counted ▸ Nat.le_succ _
          exact ⟨he.of_settled.mono (List.subset_cons_self _ _), pending, p',
            Nat.le_trans hcount hcounted, rfl⟩
      · rintro e _ ⟨he, p, hcounted, rfl⟩
        exact ⟨he.mono (List.cons_subset_cons _ (List.nil_subset _)), _, p, hcounted, rfl⟩

/-- Of each command, the first calls went and the others stay. -/
def Settles (t : Tracing) (finished : List KernelFinish) (t' : Tracing) : Prop :=
  ∃ calls pending p, List.Forall₂ (Finishes t) calls finished ∧
    t' = t.settled pending p ∧ pending.Sublist t.registry.pending ∧
    ∀ ref, calls.filter (·.command = ref) ++ pending.filter (·.command = ref) =
      t.registry.pending.filter (·.command = ref)

/-- Splitting calls by a property of their commands keeps the calls of each command
together. -/
theorem filter_filter_not (ready : CommandRef → Bool) (calls : List Call) (ref : CommandRef) :
    (calls.filter fun call => ready call.command).filter (·.command = ref) ++
      (calls.filter fun call => !ready call.command).filter (·.command = ref) =
      calls.filter (·.command = ref) := by
  simp only [List.filter_filter]
  cases href : ready ref with
  | true =>
    have hnone :
        calls.filter (fun call => decide (call.command = ref) && !ready call.command) = [] := by
      rw [List.filter_eq_nil_iff]
      rintro call -
      by_cases h : call.command = ref <;> simp [h, href]
    rw [hnone, List.append_nil]
    refine List.filter_congr fun call _ => ?_
    by_cases h : call.command = ref <;> simp [h, href]
  | false =>
    have hnone :
        calls.filter (fun call => decide (call.command = ref) && ready call.command) = [] := by
      rw [List.filter_eq_nil_iff]
      rintro call -
      by_cases h : call.command = ref <;> simp [h, href]
    rw [hnone, List.nil_append]
    refine List.filter_congr fun call _ => ?_
    by_cases h : call.command = ref <;> simp [h, href]

theorem sweep_ends (h : t.registry.WellFormed) :
    Ends sweep t (fun finished t' => Settles t finished t') (fun e _ => ¬ e.IsDangling) := by
  unfold sweep
  simp only [ends_bind, ends_get]
  refine (sweepFrom_ends [] h rfl).imp ?_ fun _ _ he => he.1.not_dangling
  rintro _ _ ⟨history, p, hhistory, rfl, -, rfl⟩
  exact ⟨_, _, p, hhistory.finishes, rfl, List.filter_sublist, filter_filter_not t.isReady _⟩

theorem sweep_stops (h : t.registry.WellFormed) {e : Fault} {t' : Tracing}
    (he : sweep t = .error e t') : t.Stops t.registry.pending e := by
  have hends : Ends sweep t (fun _ _ => True) (fun e _ => t.Stops t.registry.pending e) := by
    unfold sweep
    simp only [ends_bind, ends_get]
    exact (sweepFrom_ends [] h rfl).imp (fun _ _ _ => trivial) fun _ _ he => he.1
  exact hends.of_error he

/-! ## One event -/

/-- What a question for an event does with the first call that waits for it depends on the status
of the event. -/
theorem ends_completeEvent (h : t.registry.WellFormed) {event : EventHandle}
    {Q : Option KernelFinish → Tracing → Prop} {E : Fault → Tracing → Prop}
    (hnone : (∀ call ∈ t.registry.pending, t.registry.waitsFor event call = false) → Q none t)
    (hfirst : ∀ before call after, t.registry.pending = before ++ call :: after →
      t.registry.waitsFor event call = true →
      (∀ call' ∈ before, t.registry.waitsFor event call' = false) →
      match t.driver.eventStatus event with
      | .ready => Ends (complete before.length) t (fun f t' => Q (some f) t') E
      | .notReady => Q none t
      | .failed e => E (.unexpectedStatus event e) t) :
    Ends (completeEvent event) t Q E := by
  obtain ⟨found, hfound⟩ := h.findPending_eq_ok event
  unfold completeEvent
  simp only [ends_bind, ends_get, ends_lift]
  rw [hfound]
  rcases Registry.findFrom_cases hfound with ⟨rfl, hwaits⟩ | ⟨before, call, after, rfl, hp, hwaits,
    hbefore⟩
  · exact hnone hwaits
  · have hcall := hfirst before call after hp hwaits hbefore
    rw [Nat.zero_add]
    dsimp only
    cases hstatus : t.driver.eventStatus event with
    | ready =>
      rw [hstatus] at hcall
      simpa only [ends_bind, ends_pure] using hcall
    | notReady =>
      rw [hstatus] at hcall
      exact hcall
    | failed e =>
      rw [hstatus] at hcall
      exact hcall

/-- One event completes the first call that waits for it, or nothing if no call does or the event
is not ready. -/
theorem completeEvent_cases (h : t.registry.WellFormed) (event : EventHandle) :
    Ends (completeEvent event) t
      (fun found t' =>
        found = none ∧ t' = t ∧
          (∀ call ∈ t.registry.pending, t.registry.waitsFor event call = true →
            t.driver.eventStatus event = .notReady) ∨
        ∃ before call after f p, t.registry.pending = before ++ call :: after ∧
          t.registry.waitsFor event call = true ∧
          (∀ call' ∈ before, t.registry.waitsFor event call' = false) ∧
          t.finished? call = some f ∧ found = some f.notice ∧ t.profile.Takes f p ∧
          t' = t.settled (before ++ after) p)
      (fun e t' => t.Stops t.registry.pending e ∧ ∃ pending p, t.profile.counted ≤ p.counted ∧
        t' = t.settled pending p) := by
  refine ends_completeEvent h (fun hnone => ?_) fun before call after hp hwaits hbefore => ?_
  · refine .inl ⟨rfl, rfl, fun call hcall hwaits => ?_⟩
    rw [hnone call hcall] at hwaits
    cases hwaits
  · have hmem : call ∈ t.registry.pending := by simp [hp]
    cases hstatus : t.driver.eventStatus event with
    | notReady => exact .inl ⟨rfl, rfl, fun _ _ _ => rfl⟩
    | failed e =>
      obtain ⟨c, hc, rfl⟩ := Registry.waitsFor_eq_true.mp hwaits
      exact ⟨.inr ⟨call, hmem, .status hc hstatus⟩, t.registry.pending, t.profile,
        Nat.le_refl _, rfl⟩
    | ready =>
      have hready : t.isReady call.command = true := by
        rw [isReady_of_waitsFor hwaits, hstatus]
        rfl
      refine (complete_ends h hp hready).imp ?_ ?_
      · rintro _ _ ⟨f, p, hf, rfl, htakes, rfl⟩
        exact .inr ⟨before, call, after, f, p, hp, hwaits, hbefore, hf, rfl, htakes, rfl⟩
      · rintro e _ ⟨he, p, hcounted, rfl⟩
        exact ⟨he.mono (List.cons_subset.mpr ⟨hmem, List.nil_subset _⟩), _, p, hcounted, rfl⟩

theorem completeEvent_ends (h : t.registry.WellFormed) (event : EventHandle) :
    Ends (completeEvent event) t (fun found t' => Settles t found.toList t')
      (fun e _ => ¬ e.IsDangling) := by
  refine (completeEvent_cases h event).imp ?_ fun _ _ he => he.1.not_dangling
  rintro found t' (⟨rfl, ht, -⟩ | ⟨before, call, after, f, p, hp, hwaits, hbefore, hf, rfl, -, rfl⟩)
  · rw [ht]
    exact ⟨[], t.registry.pending, t.profile, .nil, rfl, List.Sublist.refl _, fun _ => rfl⟩
  · have hfinishes : List.Forall₂ (Finishes t) [call] [f.notice] :=
      FinishedAs.finishes (.cons hf .nil)
    refine ⟨[call], _, p, hfinishes, rfl, ?_, fun ref => ?_⟩
    · rw [hp]
      exact (List.sublist_cons_self _ _).append_left _
    · by_cases href : call.command = ref
      · -- no call of the same command stands before this one: it would be the first
        have hnone : before.filter (·.command = ref) = [] := by
          rw [List.filter_eq_nil_iff]
          intro call' hcall' heq
          have hcommand : call'.command = call.command := by
            simpa [href] using heq
          have hnot := hbefore call' hcall'
          unfold Registry.waitsFor at hnot hwaits
          rw [hcommand, hwaits] at hnot
          cases hnot
        simp [hp, List.filter_append, hnone, href]
      · simp [hp, List.filter_append, href]

/-! ## Notices -/

def told (j : Journal) : List KernelFinish :=
  j.notices.toList.map (·.finish)

def noticeIds (j : Journal) : List String :=
  j.notices.toList.map (·.finish.id)

theorem noticeIds_eq (j : Journal) : noticeIds j = (told j).map (·.id) := by
  simp [noticeIds, told]

theorem notify_nil (t : Tracing) : notify [] t = .ok () t := by
  show EStateM.Result.ok () (if t.collector.notifies then _ else t) = _
  split <;> rfl

/-- The notices, if the application wants them, are given in the order of completion. -/
theorem notify_told (finished : List KernelFinish) :
    Ends (notify finished) t
      (fun _ t' => ∃ notices, t' = { t with journal := { t.journal with notices } } ∧
        told t'.journal = told t.journal ++ if t.collector.notifies then finished else [])
      (fun _ _ => False) := by
  have hfold : ∀ (j : Journal) (n : Nat), ∃ notices,
      finished.foldl (fun j f => j.notice ⟨f, n⟩) j = { j with notices } ∧
      notices.toList.map (·.finish) = told j ++ finished := by
    intro j n
    induction finished generalizing j with
    | nil => exact ⟨j.notices, rfl, by simp [told]⟩
    | cons f finished ih =>
      obtain ⟨notices, hfold, htold⟩ := ih (j.notice ⟨f, n⟩)
      exact ⟨notices, hfold, by simp [htold, told, Journal.notice]⟩
  unfold notify
  rw [ends_modify]
  split
  · obtain ⟨notices, hfold, htold⟩ := hfold t.journal t.collector.pendingCount
    rw [hfold]
    exact ⟨notices, rfl, htold⟩
  · exact ⟨t.journal.notices, rfl, (List.append_nil _).symm⟩

theorem notify_ends (finished : List KernelFinish) :
    Ends (notify finished) t
      (fun _ t' => ∃ notices, t' = { t with journal := { t.journal with notices } } ∧
        (t.collector.notifies = true →
          noticeIds t'.journal = noticeIds t.journal ++ finished.map (·.id)))
      (fun _ _ => False) := by
  refine (notify_told finished).imp ?_ fun _ _ h => h
  rintro - t' ⟨notices, ht, htold⟩
  refine ⟨notices, ht, fun hnotifies => ?_⟩
  rw [noticeIds_eq, noticeIds_eq, htold, if_pos hnotifies, List.map_append]

end Tracing

end GpuTrace
