import GpuTrace.Proofs.Session.History
import GpuTrace.Proofs.Session.Turn
import Mathlib.Logic.Function.Basic

/-!
# Chronicle — when anchors were read and events were signalled

A `Chronicle` is a session together with the actions that led to it, and it notes the number of the
action that read the anchor of each append, execution and pending call, and of the one that last
signalled each event.

If there is one device whose timer never goes back, and kernels have started when their events are
signalled (`Session.Steady`), then an anchor is no earlier than the ticks of any signal before it.
A call is placed on the host clock only if its kernel started after its anchor, so the ticks that
it finished with came with a later signal (`finished_after_read`).

`Tracks` and `Dated` are the invariants, of the driver and of what waits for a signal; they survive
every fault.
-/

namespace GpuTrace

open Fallible Session Registry

/-- Ticks of the first device, or none while there is no device. -/
def Driver.timer (d : Driver) : UInt64 :=
  d.devices.entries.head?.elim 0 (·.2.time)

def Action.signals? : Action → Option (EventHandle × KernelTimestamp)
  | .signal event timestamp => some (event, timestamp)
  | _ => none

/-- There is at most one device and no sub-device, its timer shows all bits and does not go back,
and an event is signalled only for a kernel that has started. -/
structure Session.Steady (s : Session) (a : Action) : Prop where
  lone : (next s a).driver.devices.size ≤ 1
  unmasked : (next s a).driver.timestampMask = 0xFFFFFFFFFFFFFFFF
  monotone : s.driver.timer ≤ (next s a).driver.timer
  started : ∀ signal ∈ a.signals?, signal.2.start ≤ s.driver.timer

instance (s : Session) (a : Action) : Decidable (Steady s a) :=
  decidable_of_iff
    ((next s a).driver.devices.size ≤ 1 ∧
      (next s a).driver.timestampMask = 0xFFFFFFFFFFFFFFFF ∧
      s.driver.timer ≤ (next s a).driver.timer ∧
      ∀ signal ∈ a.signals?, signal.2.start ≤ s.driver.timer)
    ⟨fun ⟨h₁, h₂, h₃, h₄⟩ => ⟨h₁, h₂, h₃, h₄⟩, fun h => ⟨h.1, h.2, h.3, h.4⟩⟩

/-- The action reads the anchor for calls of the list: on an immediate list that is an append, on
any list an execution of it. -/
inductive Action.ReadsAnchor (s : Session) (list : CommandListHandle) (anchor : SubmitAnchor) :
    Action → Prop
  | append {token op signal c} (at_work : s.collector = some c)
      (immediate : c.registry.isImmediate list = .ok true)
      (read : (s.tracing c).Reads list anchor) :
      ReadsAnchor s list anchor (.enterAppend token list op signal)
  | execute {token queue lists c} (at_work : s.collector = some c) (listed : list ∈ lists)
      (read : (s.tracing c).Reads list anchor) :
      ReadsAnchor s list anchor (.enterExecute token queue lists)

def Session.pending (s : Session) : List Call :=
  s.collector.elim [] (·.registry.pending)

/-- A run so far, with the numbers of some of its actions, counted from zero. -/
structure Chronicle where
  start : Session
  past : List Action
  /-- When the append under a token was begun. -/
  appended : Nat → Nat
  /-- When the execution under a token was begun. -/
  submitted : Nat → Nat
  /-- When the anchor of a pending call was read. -/
  reads : Call → Nat
  /-- When an event was last signalled, and its ticks. -/
  signals : EventHandle → Option (Nat × KernelTimestamp)

namespace Chronicle

def of (s : Session) : Chronicle where
  start := s
  past := []
  appended _ := 0
  submitted _ := 0
  reads _ := 0
  signals _ := none

def session (k : Chronicle) : Session :=
  k.start.run k.past

/-- Notes one more action. A call that is pending from now on has the anchor of the append or the
execution that ends. -/
def next (k : Chronicle) (a : Action) : Chronicle :=
  let answer := (k.session.step a).1
  { start := k.start
    past := k.past ++ [a]
    appended := match a with
      | .enterAppend token .. =>
        if Answer.begins answer then Function.update k.appended token k.past.length
        else k.appended
      | _ => k.appended
    submitted := match a with
      | .enterExecute token .. =>
        if Answer.begins answer then Function.update k.submitted token k.past.length
        else k.submitted
      | _ => k.submitted
    reads := match a with
      | .exitAppend token _ => fun call =>
        if call ∈ k.session.pending then k.reads call else k.appended token
      | .exitExecute token _ => fun call =>
        if call ∈ k.session.pending then k.reads call else k.submitted token
      | _ => k.reads
    signals := match a.signals? with
      | some (event, timestamp) =>
        if answer.isOk then Function.update k.signals event (some (k.past.length, timestamp))
        else k.signals
      | none => k.signals }

def run (k : Chronicle) (actions : List Action) : Chronicle :=
  actions.foldl next k

variable {k : Chronicle} {a : Action} {s' : Session} {list : CommandListHandle}
  {anchor : SubmitAnchor} {call : Call} {n : Nat}

theorem past_next : (k.next a).past = k.past ++ [a] := rfl

theorem session_next (k : Chronicle) (a : Action) :
    (k.next a).session = Session.next k.session a := by
  unfold session
  rw [past_next, Session.run_append]
  rfl

theorem run_start_past (k : Chronicle) (actions : List Action) :
    (k.run actions).start = k.start ∧ (k.run actions).past = k.past ++ actions := by
  induction actions generalizing k with
  | nil => exact ⟨rfl, (List.append_nil _).symm⟩
  | cons a actions ih =>
    obtain ⟨hstart, hpast⟩ := ih (k.next a)
    refine ⟨hstart, hpast.trans ?_⟩
    rw [past_next, List.append_assoc]
    rfl

/-! ## Signals -/

/-- The ticks of each event are those that it was last signalled with, and kernels start no later
than the timer shows. -/
structure Tracks (k : Chronicle) : Prop where
  lone : k.session.driver.devices.size ≤ 1
  unmasked : k.session.driver.timestampMask = 0xFFFFFFFFFFFFFFFF
  signalled : ∀ event timestamp, k.session.driver.kernelTimestamp event = .ok timestamp →
    ∃ n, k.signals event = some (n, timestamp)
  noted : ∀ event n timestamp, k.signals event = some (n, timestamp) →
    k.past[n]? = some (.signal event timestamp) ∧ timestamp.start ≤ k.session.driver.timer

theorem kernelTimestamp_of_step {s : Session} (hsignal : a.signals? = none) {event : EventHandle}
    {timestamp : KernelTimestamp}
    (h : (s.step a).2.driver.kernelTimestamp event = .ok timestamp) :
    s.driver.kernelTimestamp event = .ok timestamp := by
  cases hd : a.disturbs with
  | false => exact Driver.Undisturbed.kernelTimestamp (step_calm hd) h
  | true =>
    rcases step_disturbing (s := s) hd with hevents | ⟨e, f, hf, hevents⟩
    · unfold Driver.kernelTimestamp at h ⊢
      rwa [← hevents]
    · refine Driver.kernelTimestamp_of_modify hevents (fun st hst => ?_) h
      cases a with
      | signal event timestamp => cases hsignal
      | hostReset event =>
        cases hf
        cases hst
      | setEventStatus event status =>
        cases hf
        exact hst
      | _ => cases hf

/-- A signal gives its ticks to its event, and no ticks to other events; on an event that is gone
it does nothing. -/
theorem step_signal {s : Session} (event : EventHandle) (timestamp : KernelTimestamp) :
    (s.step (.signal event timestamp)).1.isOk = false ∧
        (s.step (.signal event timestamp)).2 = s ∨
      (s.step (.signal event timestamp)).1.isOk = true ∧
        ∀ e ts, (s.step (.signal event timestamp)).2.driver.kernelTimestamp e = .ok ts →
          e = event ∧ ts = timestamp ∨ e ≠ event ∧ s.driver.kernelTimestamp e = .ok ts := by
  have hends : Ends (Action.signal event timestamp).perform s
      (fun _ s' => ∃ d, s.driver.signal event timestamp = .ok d ∧ s' = { s with driver := d })
      (fun _ s' => s' = s) := by
    refine ends_bind.mpr ?_
    rw [ends_updateDriver]
    cases hcall : s.driver.signal event timestamp with
    | error e => rfl
    | ok d => exact ⟨d, rfl, rfl⟩
  rcases step_of_ends hends with ⟨answer, hok, d, hd, hs⟩ | ⟨e, herror, hs⟩
  · refine .inr ⟨by rw [hok]; rfl, fun e ts hts => ?_⟩
    obtain rfl := Driver.signal_ok hd
    rw [hs] at hts
    obtain ⟨st', hst', hsome⟩ := Driver.kernelTimestamp_eq_ok_iff.mp hts
    have hst' : (s.driver.events.modify event fun st =>
        { st with status := .ready, timestamp := some timestamp }).get? e = some st' := hst'
    rw [Table.get?_modify] at hst'
    split at hst'
    · obtain ⟨st, -, rfl⟩ := Option.map_eq_some_iff.mp hst'
      exact .inl ⟨by assumption, (Option.some.inj hsome).symm⟩
    · exact .inr ⟨by assumption, Driver.kernelTimestamp_eq_ok_iff.mpr ⟨st', hst', hsome⟩⟩
  · exact .inl ⟨by rw [herror]; rfl, hs⟩

theorem signals_next_of_none (hsignal : a.signals? = none) : (k.next a).signals = k.signals := by
  simp only [next, hsignal]

theorem signals_next (event : EventHandle) (timestamp : KernelTimestamp) :
    (k.next (.signal event timestamp)).signals =
      if (k.session.step (.signal event timestamp)).1.isOk then
        Function.update k.signals event (some (k.past.length, timestamp))
      else k.signals := rfl

theorem signals_next_cases {event : EventHandle} {timestamp : KernelTimestamp}
    (h : (k.next a).signals event = some (n, timestamp)) :
    k.signals event = some (n, timestamp) ∨
      n = k.past.length ∧ a = .signal event timestamp := by
  cases hsignal : a.signals? with
  | none =>
    rw [signals_next_of_none hsignal] at h
    exact .inl h
  | some signal =>
    cases a with
    | signal e ts =>
      rw [signals_next] at h
      split at h
      · by_cases he : event = e
        · subst he
          rw [Function.update_self] at h
          cases h
          exact .inr ⟨rfl, rfl⟩
        · rw [Function.update_of_ne he] at h
          exact .inl h
      · exact .inl h
    | _ => cases hsignal

theorem Tracks.next (h : k.Tracks) (hs : Steady k.session a) : (k.next a).Tracks where
  lone := by
    rw [session_next]
    exact hs.lone
  unmasked := by
    rw [session_next]
    exact hs.unmasked
  signalled event timestamp ht := by
    rw [session_next] at ht
    cases hsignal : a.signals? with
    | none =>
      rw [signals_next_of_none hsignal]
      exact h.signalled event timestamp (kernelTimestamp_of_step hsignal ht)
    | some signal =>
      cases a with
      | signal e ts =>
        rw [signals_next]
        rcases step_signal (s := k.session) e ts with ⟨hfail, hsame⟩ | ⟨hok, hticks⟩
        · rw [Session.next, hsame] at ht
          rw [hfail]
          exact h.signalled event timestamp ht
        · rw [hok, if_pos rfl]
          rcases hticks event timestamp ht with ⟨rfl, rfl⟩ | ⟨hne, hold⟩
          · exact ⟨_, Function.update_self ..⟩
          · rw [Function.update_of_ne hne]
            exact h.signalled event timestamp hold
      | _ => cases hsignal
  noted event n timestamp hnoted := by
    rw [session_next, past_next]
    rcases signals_next_cases hnoted with hold | ⟨rfl, rfl⟩
    · obtain ⟨hpast, hstart⟩ := h.noted event n timestamp hold
      obtain ⟨hlt, -⟩ := List.getElem?_eq_some_iff.mp hpast
      exact ⟨by rw [List.getElem?_append_left hlt, hpast], UInt64.le_trans hstart hs.monotone⟩
    · exact ⟨List.getElem?_concat_length, UInt64.le_trans (hs.started _ rfl) hs.monotone⟩

/-! ## Anchors -/

/-- The action with the number read the anchor, and kernels whose events were signalled before it
had started by then. -/
def Dates (k : Chronicle) (n : Nat) (list : CommandListHandle) (anchor : SubmitAnchor) : Prop :=
  (∃ a, k.past[n]? = some a ∧ a.ReadsAnchor (k.start.run (k.past.take n)) list anchor) ∧
    ∀ event m timestamp, k.signals event = some (m, timestamp) → m ≤ n →
      timestamp.start ≤ anchor.deviceTime

structure Dated (k : Chronicle) : Prop where
  appends : ∀ token append anchor, k.session.appends.get? token = some append →
    append.anchor = some anchor → k.Dates (k.appended token) append.list anchor
  submits : ∀ token submit, k.session.submits.get? token = some submit →
    ∀ entry ∈ submit.anchors, k.Dates (k.submitted token) entry.1 entry.2
  pending : ∀ call ∈ k.session.pending, k.Dates (k.reads call) call.command.list call.anchor

theorem deviceTime_eq_timer {t : Tracing} (hlone : t.driver.devices.size ≤ 1)
    (hmask : t.driver.timestampMask = 0xFFFFFFFFFFFFFFFF) (h : t.Reads list anchor) :
    anchor.deviceTime = t.driver.timer := by
  obtain ⟨device, -, hread⟩ := h
  unfold Tracing.anchorOn Driver.maskedTimestamp Driver.deviceTimestamp Driver.device at hread
  cases hd : t.driver.devices.get? device with
  | none =>
    rw [hd] at hread
    cases hread
  | some state =>
    rw [hd] at hread
    cases hread
    have hmem := Table.mem_entries_iff.mpr hd
    unfold Table.size at hlone
    obtain ⟨entry, hentries⟩ := List.length_eq_one_iff.mp
      (Nat.le_antisymm hlone (List.length_pos_of_mem hmem))
    rw [hentries] at hmem
    obtain rfl := List.mem_singleton.mp hmem
    show state.time &&& t.driver.timestampMask = _
    rw [hmask, Driver.timer, hentries]
    exact UInt64.and_neg_one

theorem Dates.next (h : k.Dates n list anchor) : (k.next a).Dates n list anchor := by
  obtain ⟨⟨b, hb, hreads⟩, hsignals⟩ := h
  obtain ⟨hlt, -⟩ := List.getElem?_eq_some_iff.mp hb
  refine ⟨⟨b, ?_, ?_⟩, fun event m timestamp hnoted hle => ?_⟩
  · rw [past_next, List.getElem?_append_left hlt, hb]
  · rw [past_next, List.take_append_of_le_length (Nat.le_of_lt hlt)]
    exact hreads
  · rcases signals_next_cases hnoted with hold | ⟨rfl, -⟩
    · exact hsignals event m timestamp hold hle
    · exact absurd hle (Nat.not_le_of_lt hlt)

/-- An anchor that is read now is no earlier than the ticks of the signals so far. -/
theorem Tracks.dates (h : k.Tracks) (hsignal : a.signals? = none)
    (hreads : a.ReadsAnchor k.session list anchor) :
    (k.next a).Dates k.past.length list anchor := by
  have htimer : anchor.deviceTime = k.session.driver.timer := by
    cases hreads with
    | @append token op signal c at_work immediate read =>
      exact deviceTime_eq_timer (t := k.session.tracing c) h.lone h.unmasked read
    | @execute token queue lists c at_work listed read =>
      exact deviceTime_eq_timer (t := k.session.tracing c) h.lone h.unmasked read
  refine ⟨⟨a, List.getElem?_concat_length, ?_⟩, fun event m timestamp hnoted _ => ?_⟩
  · rw [past_next, List.take_left]
    exact hreads
  · rw [signals_next_of_none hsignal] at hnoted
    rw [htimer]
    exact (h.noted event m timestamp hnoted).2

/-! ### Steps -/

theorem reads_next_of_pending (h : call ∈ k.session.pending) :
    (k.next a).reads call = k.reads call := by
  cases a with
  | exitAppend token result => exact if_pos h
  | exitExecute token result => exact if_pos h
  | _ => rfl

theorem next_of_quiet (h : Answer.begins (k.session.step a).1 = false) :
    (k.next a).appended = k.appended ∧ (k.next a).submitted = k.submitted := by
  have hnot : ¬ Answer.begins (k.session.step a).1 = true := by simp [h]
  cases a with
  | enterAppend => exact ⟨if_neg hnot, rfl⟩
  | enterExecute => exact ⟨rfl, if_neg hnot⟩
  | _ => exact ⟨rfl, rfl⟩

theorem next_of_outside (h : a.isOutside = true) :
    (k.next a).appended = k.appended ∧ (k.next a).submitted = k.submitted := by
  cases a <;> first | exact ⟨rfl, rfl⟩ | cases h

theorem next_of_lifecycle (h : a.isLifecycle = true) :
    (k.next a).appended = k.appended ∧ (k.next a).submitted = k.submitted := by
  cases a <;> first | exact ⟨rfl, rfl⟩ | cases h

theorem pending_of {s : Session} {c : Collector} (hc : s.collector = some c) :
    s.pending = c.registry.pending := by
  rw [Session.pending, hc]
  rfl

/-- What waits is old and keeps its date, or it is new and has one. -/
theorem Dated.grow (h : k.Dated)
    (happends : ∀ token append, (Session.next k.session a).appends.get? token = some append →
      k.session.appends.get? token = some append ∧
          (k.next a).appended token = k.appended token ∨
        ∀ anchor, append.anchor = some anchor →
          (k.next a).Dates ((k.next a).appended token) append.list anchor)
    (hsubmits : ∀ token submit, (Session.next k.session a).submits.get? token = some submit →
      k.session.submits.get? token = some submit ∧
          (k.next a).submitted token = k.submitted token ∨
        ∀ entry ∈ submit.anchors, (k.next a).Dates ((k.next a).submitted token) entry.1 entry.2)
    (hpending : ∀ call ∈ (Session.next k.session a).pending, call ∈ k.session.pending ∨
      (k.next a).Dates ((k.next a).reads call) call.command.list call.anchor) :
    (k.next a).Dated := by
  rw [← session_next] at happends hsubmits hpending
  refine ⟨fun token append anchor found hanchor => ?_, fun token submit found entry hentry => ?_,
    fun call hcall => ?_⟩
  · rcases happends token append found with ⟨hold, hdate⟩ | hnew
    · rw [hdate]
      exact (h.appends token append anchor hold hanchor).next
    · exact hnew anchor hanchor
  · rcases hsubmits token submit found with ⟨hold, hdate⟩ | hnew
    · rw [hdate]
      exact (h.submits token submit hold entry hentry).next
    · exact hnew entry hentry
  · rcases hpending call hcall with hold | hnew
    · rw [reads_next_of_pending hold]
      exact (h.pending call hold).next
    · exact hnew

theorem Dated.fewer (h : k.Dated)
    (hdates : (k.next a).appended = k.appended ∧ (k.next a).submitted = k.submitted)
    (happends : ∀ token append, (Session.next k.session a).appends.get? token = some append →
      k.session.appends.get? token = some append)
    (hsubmits : ∀ token submit, (Session.next k.session a).submits.get? token = some submit →
      k.session.submits.get? token = some submit)
    (hpending : ∀ call ∈ (Session.next k.session a).pending, call ∈ k.session.pending) :
    (k.next a).Dated :=
  h.grow (fun token append found => .inl ⟨happends token append found, congrFun hdates.1 token⟩)
    (fun token submit found => .inl ⟨hsubmits token submit found, congrFun hdates.2 token⟩)
    fun call hcall => .inl (hpending call hcall)

section Hooks

variable {c : Collector} {t : Tracing} {token : Nat} {op : Operation}
  {signal event : Option EventHandle} {append : InFlightAppend} {queue : QueueHandle}
  {lists : List CommandListHandle} {submit : SubmitToken} {result : DriverResult}

theorem Dated.begun (h : k.Dated) (htracks : k.Tracks) (hc : k.session.collector = some c)
    (enter : Tracing.enterAppend list op signal (k.session.tracing c) =
      .ok ⟨some append, event⟩ t)
    (hbegins : Answer.begins (k.session.step (.enterAppend token list op signal)).1 = true)
    (hreached : Session.next k.session (.enterAppend token list op signal) =
      { k.session.after t with appends := k.session.appends.insert token append }) :
    (k.next (.enterAppend token list op signal)).Dated := by
  have hdates : (k.next (.enterAppend token list op signal)).appended =
      Function.update k.appended token k.past.length := if_pos hbegins
  obtain ⟨hlist, hanchor, -⟩ := (Tracing.enterAppend_begins list op signal).of_ok enter append rfl
  refine h.grow (fun token' append' found => ?_) (fun token' submit found => ?_)
    fun call hcall => .inl ?_
  · rw [hreached] at found
    have found : (k.session.appends.insert token append).get? token' = some append' := found
    rw [hdates]
    rw [Table.get?_insert] at found
    by_cases htoken : token' = token
    · rw [if_pos htoken] at found
      cases found
      rw [htoken, Function.update_self]
      refine .inr fun anchor hsome => htracks.dates rfl ?_
      rw [hlist]
      exact .append hc (hanchor anchor hsome).1 (hanchor anchor hsome).2
    · rw [if_neg htoken] at found
      exact .inl ⟨found, Function.update_of_ne htoken ..⟩
  · rw [hreached] at found
    exact .inl ⟨found, rfl⟩
  · obtain ⟨driver, warnings, -, rfl⟩ := (Tracing.enterAppend_within list op signal _).of_ok enter
    rw [hreached] at hcall
    rwa [pending_of hc]

theorem Dated.planned (h : k.Dated) (htracks : k.Tracks) (hc : k.session.collector = some c)
    (enter : Tracing.enterExecute queue lists (k.session.tracing c) =
      .ok (some submit) (k.session.tracing c))
    (hbegins : Answer.begins (k.session.step (.enterExecute token queue lists)).1 = true)
    (hreached : Session.next k.session (.enterExecute token queue lists) =
      { k.session with submits := k.session.submits.insert token submit }) :
    (k.next (.enterExecute token queue lists)).Dated := by
  have hdates : (k.next (.enterExecute token queue lists)).submitted =
      Function.update k.submitted token k.past.length := if_pos hbegins
  have hanchors := (Tracing.enterExecute_begins queue lists).of_ok enter submit rfl
  refine h.grow (fun token' append found => ?_) (fun token' submit' found => ?_)
    fun call hcall => .inl ?_
  · rw [hreached] at found
    exact .inl ⟨found, rfl⟩
  · rw [hreached] at found
    have found : (k.session.submits.insert token submit).get? token' = some submit' := found
    rw [hdates]
    rw [Table.get?_insert] at found
    by_cases htoken : token' = token
    · rw [if_pos htoken] at found
      cases found
      rw [htoken, Function.update_self]
      refine .inr fun entry hentry => htracks.dates rfl ?_
      obtain ⟨hlisted, hread⟩ := hanchors entry hentry
      exact .execute hc hlisted hread
    · rw [if_neg htoken] at found
      exact .inl ⟨found, Function.update_of_ne htoken ..⟩
  · rw [hreached] at hcall
    exact hcall

theorem Dated.ended (h : k.Dated) (hc : k.session.collector = some c)
    (found : k.session.appends.get? token = some append)
    (hreached : Session.next k.session (.exitAppend token result) =
      { k.session.after (final (Tracing.exitAppend append result) (k.session.tracing c)) with
        appends := k.session.appends.erase token }) :
    (k.next (.exitAppend token result)).Dated := by
  refine h.grow (fun token' append' found' => ?_) (fun token' submit found' => ?_)
    fun call hcall => ?_
  · rw [hreached] at found'
    exact .inl ⟨Table.get?_of_erase found', rfl⟩
  · rw [hreached] at found'
    exact .inl ⟨found', rfl⟩
  · rw [hreached] at hcall
    by_cases hold : call ∈ k.session.pending
    · exact .inl hold
    · -- The anchor was read at the begin of the append, not by this action.
      have hdate : (k.next (.exitAppend token result)).reads call = k.appended token :=
        if_neg hold
      rw [pending_of hc] at hold
      obtain ⟨hlist, hanchor⟩ := (Tracing.exitAppend_pending hcall).resolve_left hold
      rw [hdate, hlist]
      exact .inr (h.appends token append call.anchor found hanchor).next

theorem Dated.executed (h : k.Dated) (hc : k.session.collector = some c)
    (found : k.session.submits.get? token = some submit)
    (hreached : Session.next k.session (.exitExecute token result) =
      { k.session.after (final (Tracing.exitExecute submit result) (k.session.tracing c)) with
        submits := k.session.submits.erase token }) :
    (k.next (.exitExecute token result)).Dated := by
  refine h.grow (fun token' append found' => ?_) (fun token' submit' found' => ?_)
    fun call hcall => ?_
  · rw [hreached] at found'
    exact .inl ⟨found', rfl⟩
  · rw [hreached] at found'
    exact .inl ⟨Table.get?_of_erase found', rfl⟩
  · rw [hreached] at hcall
    by_cases hold : call ∈ k.session.pending
    · exact .inl hold
    · have hdate : (k.next (.exitExecute token result)).reads call = k.submitted token :=
        if_neg hold
      rw [pending_of hc] at hold
      have hentry := (Tracing.exitExecute_pending hcall).resolve_left hold
      rw [hdate]
      exact .inr (h.submits token submit found _ hentry).next

end Hooks

theorem Dated.turn (h : k.Dated) (htracks : k.Tracks)
    (hturn : Turn k.session a (k.session.step a).1 (Session.next k.session a)) :
    (k.next a).Dated := by
  generalize hresult : (k.session.step a).1 = result at hturn
  generalize hreached : Session.next k.session a = s' at hturn
  cases hturn with
  | idle quiet appends_from submits_from =>
    refine h.fewer (next_of_quiet (hresult ▸ quiet)) ?_ ?_ ?_
    · rw [hreached]
      rcases appends_from with rfl | ⟨token, rfl⟩
      · exact fun _ _ found => found
      · exact fun _ _ => Table.get?_of_erase
    · rw [hreached]
      rcases submits_from with rfl | ⟨token, rfl⟩
      · exact fun _ _ found => found
      · exact fun _ _ => Table.get?_of_erase
    · rw [hreached]
      exact fun _ hcall => hcall
  | hooked quiet at_work subsides =>
    refine h.fewer (next_of_quiet (hresult ▸ quiet)) ?_ ?_ ?_
    · rw [hreached]
      exact fun _ _ found => found
    · rw [hreached]
      exact fun _ _ found => found
    · rw [hreached, pending_of at_work]
      exact fun call hcall => subsides.changes.registry.pending_old hcall
  | begun at_work enter => exact h.begun htracks at_work enter (by rw [hresult]; rfl) hreached
  | @unbegun token list op signal result c quiet at_work =>
    obtain ⟨driver, warnings, -, hfinal⟩ :=
      (Tracing.enterAppend_within list op signal).final (k.session.tracing c)
    rw [hfinal] at hreached
    refine h.fewer (next_of_quiet (hresult ▸ quiet)) ?_ ?_ ?_
    · rw [hreached]
      exact fun _ _ found => found
    · rw [hreached]
      exact fun _ _ found => found
    · rw [hreached, pending_of at_work]
      exact fun call hcall => hcall
  | ended quiet at_work found => exact h.ended at_work found hreached
  | planned at_work enter => exact h.planned htracks at_work enter (by rw [hresult]; rfl) hreached
  | executed quiet at_work found => exact h.executed at_work found hreached

theorem Dated.next (h : k.Dated) (htracks : k.Tracks) : (k.next a).Dated := by
  cases hout : a.isOutside with
  | true =>
    obtain ⟨driver, now, -, hs⟩ := step_within (s := k.session) (outside_within a hout)
    refine h.fewer (next_of_outside hout) ?_ ?_ ?_
    · rw [Session.next, hs]
      exact fun _ _ found => found
    · rw [Session.next, hs]
      exact fun _ _ found => found
    · rw [Session.next, hs]
      exact fun _ hcall => hcall
  | false =>
    cases hlife : a.isLifecycle with
    | true =>
      have haside : Aside k.session (Session.next k.session a) :=
        step_within (lifecycle_aside hlife)
      refine h.fewer (next_of_lifecycle hlife) ?_ ?_ fun call hcall => ?_
      · rw [haside.appends]
        exact fun _ _ found => found
      · rw [haside.submits]
        exact fun _ _ found => found
      · rcases Option.eq_none_or_eq_some (Session.next k.session a).collector with hc | ⟨c, hc⟩
        · rw [Session.pending, hc] at hcall
          cases hcall
        · rw [pending_of hc] at hcall
          rcases haside.collector c hc with hempty | hold
          · rw [hempty] at hcall
            cases hcall
          · rwa [pending_of hold]
    | false => exact h.turn htracks (step_turn hout hlife)

/-! ## Runs -/

theorem tracks_of (version : ApiVersion) (backend : Backend) (now : UInt64) :
    (of (Session.of (.of version backend) now)).Tracks where
  lone := Nat.zero_le 1
  unmasked := rfl
  signalled event timestamp h := by
    obtain ⟨st, hst, -⟩ := Driver.kernelTimestamp_eq_ok_iff.mp h
    cases hst
  noted event n timestamp h := by cases h

theorem dated_of (driver : Driver) (now : UInt64) : (of (Session.of driver now)).Dated where
  appends token append anchor found := by cases found
  submits token submit found := by cases found
  pending call hcall := by cases hcall

theorem Tracks.run (h : k.Tracks) (hdated : k.Dated) {actions : List Action}
    (hsteady : Along Session.next Steady k.session actions) :
    (k.run actions).Tracks ∧ (k.run actions).Dated := by
  -- `Tracks` goes first: the anchors of an action are compared with the signals before it.
  induction actions generalizing k with
  | nil => exact ⟨h, hdated⟩
  | cons a actions ih =>
    have hrest := hsteady.2
    rw [← session_next] at hrest
    exact ih (h.next hsteady.1) (hdated.next h) hrest

/-- A pending call can only finish with ticks that were signalled after its anchor was read. -/
theorem Dated.reads_lt_signalled (h : k.Dated) (htracks : k.Tracks) {c : Collector}
    (hc : k.session.collector = some c) (hcall : call ∈ c.registry.pending) {f : Finished}
    (hf : (k.session.tracing c).finished? call = some f) :
    ∃ signalled, k.signals f.command.event = some (signalled, f.timestamp) ∧
      k.reads call < signalled := by
  obtain ⟨rfl, -, -, hticks⟩ := Tracing.finished?_cases hf
  obtain ⟨n, hn⟩ := htracks.signalled _ _ hticks
  refine ⟨n, hn, Nat.lt_of_not_le fun hle => ?_⟩
  -- A kernel signalled before the anchor had started by then, and such a call is not placed.
  rw [← pending_of hc] at hcall
  have hearly := (h.pending f.call hcall).2 _ _ _ hn hle
  exact absurd hearly (UInt64.not_le.mpr f.placed_cases.1)

/-- **Stale signals are never recorded.** Take a run with one unpartitioned device whose timer has
all bits and does not go back, in which a kernel has started when its event is signalled. If an
action after it ends with an answer, then the profile takes in just the calls that the action
finishes, and each of them finished with the ticks of a signal that came after the anchor of the
call was read, however often its command was submitted and its event reset in between. -/
theorem finished_after_read (version : ApiVersion) (backend : Backend) (now : UInt64)
    (actions : List Action) (a : Action) (c : Collector)
    (hsteady : Along Session.next Steady (Session.of (.of version backend) now) actions)
    (hc : ((Session.of (.of version backend) now).run actions).collector = some c)
    (hs : Serves ((Session.of (.of version backend) now).run actions) a) :
    let s₀ := Session.of (.of version backend) now
    let s := s₀.run actions
    let k := (of s₀).run actions
    ∃ c', (Session.next s a).collector = some c' ∧
      c.profile.TakesAll (s.finishes a) c'.profile ∧
      ∀ f ∈ s.finishes a, ∃ signalled,
        k.reads f.call < signalled ∧
        (∃ b, actions[k.reads f.call]? = some b ∧
          b.ReadsAnchor (s₀.run (actions.take (k.reads f.call))) f.call.command.list
            f.call.anchor) ∧
        k.signals f.command.event = some (signalled, f.timestamp) ∧
        actions[signalled]? = some (.signal f.command.event f.timestamp) := by
  intro s₀ s k
  obtain ⟨htracks, hdated⟩ := (tracks_of version backend now).run (dated_of _ now) hsteady
  obtain ⟨hstart, hpast⟩ := run_start_past (of s₀) actions
  have hsession : k.session = s := by
    unfold session
    rw [hstart, hpast]
    rfl
  obtain ⟨hlife, answer, hok⟩ := hs
  have hwf : c.registry.WellFormed := registryWellFormed_run (.of version backend) now actions c hc
  obtain ⟨c', hc', htook⟩ := of_step (perform_took hc hwf hlife) (Prod.ext hok rfl)
  refine ⟨c', hc', htook.profile, fun f hf => ?_⟩
  obtain ⟨call, hcall, hfinished⟩ := of_mem_finishes hc hf
  obtain ⟨rfl, -⟩ := Tracing.finished?_cases hfinished
  have hc₁ : k.session.collector = some c := by rwa [hsession]
  have hfinished₁ : (k.session.tracing c).finished? f.call = some f := by rwa [hsession]
  obtain ⟨signalled, hsignalled, hlt⟩ := hdated.reads_lt_signalled htracks hc₁ hcall hfinished₁
  have hcall' : f.call ∈ k.session.pending := by rwa [pending_of hc₁]
  have hread := (hdated.pending f.call hcall').1
  have hsignal := (htracks.noted _ _ _ hsignalled).1
  rw [hpast] at hread hsignal
  rw [hstart] at hread
  exact ⟨signalled, hlt, hread, hsignalled, hsignal⟩

/-- A command is submitted, completed and submitted again while its event is still ready; then the
event is reset and signalled again. -/
def resubmitted : List Action :=
  [.addDevice 1000 0, .create .default true, .exitListCreate ⟨9⟩ ⟨8⟩ ⟨1⟩ false (.ok ()),
    .enterAppend 0 ⟨9⟩ .barrier none, .exitAppend 0 (.ok ()), .enterExecute 0 ⟨7⟩ [⟨9⟩],
    .exitExecute 0 (.ok ()), .setDeviceTime ⟨1⟩ 15, .signal ⟨4⟩ ⟨10, 20⟩, .processCalls,
    .enterExecute 0 ⟨7⟩ [⟨9⟩], .exitExecute 0 (.ok ()), .hostReset ⟨4⟩, .setDeviceTime ⟨1⟩ 40,
    .signal ⟨4⟩ ⟨35, 38⟩]

/-- The second call, whose anchor was read by the eleventh action, finishes with the ticks of the
last one. -/
theorem finished_after_read_resubmitted :
    ∃ f, ((Session.of .standard 7).run resubmitted).finishes .processCalls = [f] ∧
      f.timestamp = ⟨35, 38⟩ ∧
      ((of (Session.of .standard 7)).run resubmitted).reads f.call < 14 := by
  have hsteady : Along Session.next Steady (Session.of .standard 7) resubmitted := by
    decide +kernel
  have hs : Serves ((Session.of .standard 7).run resubmitted) .processCalls := by decide +kernel
  have hwork : ((Session.of .standard 7).run resubmitted).collector.isSome = true := by
    decide +kernel
  have hticks : (((Session.of .standard 7).run resubmitted).finishes .processCalls).map
      (fun f => (f.timestamp, f.command.event)) = [(⟨35, 38⟩, ⟨4⟩)] := by decide +kernel
  have hlast : (((of (Session.of .standard 7)).run resubmitted).signals ⟨4⟩).map Prod.fst =
      some 14 := by decide +kernel
  obtain ⟨c, hc⟩ := Option.isSome_iff_exists.mp hwork
  obtain ⟨f, hf, hpair⟩ := List.map_eq_singleton_iff.mp hticks
  obtain ⟨htimestamp, hevent⟩ := Prod.mk.inj hpair
  obtain ⟨c', -, -, hall⟩ :=
    finished_after_read ⟨1, 2⟩ .computeDriver 7 resubmitted .processCalls c hsteady hc hs
  obtain ⟨signalled, hlt, -, hsignalled, -⟩ := hall f (by
    show f ∈ ((Session.of .standard 7).run resubmitted).finishes .processCalls
    rw [hf]
    exact List.mem_singleton_self f)
  rw [hevent] at hsignalled
  have heq : ((of (Session.of .standard 7)).run resubmitted).signals ⟨4⟩ =
      some (signalled, f.timestamp) := hsignalled
  rw [heq] at hlast
  cases hlast
  exact ⟨f, hf, htimestamp, hlt⟩

end Chronicle

end GpuTrace
