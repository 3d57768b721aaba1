import GpuTrace.Proofs.Collector.Frame
import GpuTrace.Proofs.Registry.Growth

/-!
# Submission — what comes with an append and with an execution

An append that begins takes the event that the application passed, or one that was made for it,
and on an immediate list it reads the anchor of its call (`enterAppend_begins`); an execution reads
an anchor for each list (`enterExecute_begins`). What the ends of both register and queue is what
they were given at their begin, with just these events and anchors (`exitAppend_commands`,
`exitAppend_pending`, `exitExecute_pending`), whether they answer or stop with a fault.
-/

namespace GpuTrace.Tracing

open Fallible Registry

variable {t : Tracing} {append : InFlightAppend} {token : SubmitToken} {result : DriverResult}
  {c : Command} {call : Call}

/-! ## Begin -/

theorem signalFor_answers (context : ContextHandle) (name : String) (signal : Option EventHandle) :
    Answers (fun made : Option SignalEvent =>
      ∀ event, made = some (.borrowed event) → signal = some event)
      (signalFor context name signal) := by
  unfold signalFor
  cases signal with
  | some event =>
    refine answers_pure ?_
    rintro _ ⟨⟩
    rfl
  | none =>
    -- An event that is made here is never a borrowed one.
    have howned : Answers
        (fun made : Except SetupError SignalEvent => ∀ event, made ≠ .ok (.borrowed event))
        (createProfilingEvent context) := by
      unfold createProfilingEvent
      refine answers_bind fun pool => ?_
      split
      · exact answers_pure nofun
      · refine answers_bind fun event => ?_
        split
        · exact answers_pure nofun
        · refine answers_bind fun destroyed => ?_
          split
          · exact answers_pure nofun
          · exact answers_bind fun _ => answers_pure nofun
    refine answers_bind_of howned fun made hmade => ?_
    split
    · refine answers_pure ?_
      rintro event ⟨⟩
      exact absurd rfl (hmade event)
    · exact answers_bind fun _ => answers_pure nofun

theorem appendAnchor_eq_some {list : CommandListHandle} {device : DeviceHandle}
    {anchor : SubmitAnchor} (h : t.appendAnchor list device = .ok (some anchor)) :
    t.registry.isImmediate list = .ok true ∧ t.anchorOn device = .ok anchor := by
  unfold appendAnchor at h
  cases himmediate : t.registry.isImmediate list with
  | error e =>
    rw [himmediate] at h
    cases h
  | ok immediate =>
    rw [himmediate] at h
    cases immediate with
    | false => cases h
    | true =>
      cases hanchor : t.anchorOn device with
      | error e =>
        simp only [hanchor, bind, Except.bind, if_true] at h
        cases h
      | ok read =>
        simp only [hanchor, bind, Except.bind, if_true] at h
        cases h
        exact ⟨rfl, rfl⟩

/-- An anchor for the list, read from the clock and the timer of its device. -/
def Reads (t : Tracing) (list : CommandListHandle) (anchor : SubmitAnchor) : Prop :=
  ∃ device, t.registry.device list = .ok device ∧ t.anchorOn device = .ok anchor

/-- The event of an append that begins is new or the one that was passed, and its anchor, on an
immediate list, is read then. -/
theorem enterAppend_begins (list : CommandListHandle) (op : Operation)
    (signal : Option EventHandle) :
    Ends (enterAppend list op signal) t
      (fun answer _ => ∀ append, answer.inFlight = some append →
        append.list = list ∧
        (∀ anchor, append.anchor = some anchor →
          t.registry.isImmediate list = .ok true ∧ t.Reads list anchor) ∧
        ∀ event, append.command.signal = .borrowed event → signal = some event)
      (fun _ _ => True) := by
  unfold enterAppend
  rw [ends_bind, ends_get]
  split
  · exact nofun
  · refine (answers_bind_lift fun device hdevice => answers_bind fun props =>
      answers_bind_lift fun anchor hanchor => answers_bind fun context =>
      answers_bind_of (signalFor_answers context props.name signal) fun made hmade => ?_) t
    split
    · exact answers_pure nofun
    · rename_i signalEvent
      refine answers_bind fun _ => answers_bind fun frequency =>
        answers_bind_lift fun command hcommand => answers_pure ?_
      rintro _ ⟨⟩
      refine ⟨rfl, ?_, fun event hborrowed => hmade event ?_⟩
      · rintro read rfl
        obtain ⟨himmediate, hread⟩ := appendAnchor_eq_some hanchor
        exact ⟨himmediate, device, hdevice, hread⟩
      · rw [← hborrowed, Command.eq_of_ok hcommand]

theorem enterExecute_begins (queue : QueueHandle) (lists : List CommandListHandle) :
    Ends (enterExecute queue lists) t
      (fun submit _ => ∀ token, submit = some token →
        ∀ entry ∈ token.anchors, entry.1 ∈ lists ∧ t.Reads entry.1 entry.2)
      (fun _ _ => True) := by
  unfold enterExecute
  rw [ends_bind, ends_get]
  split
  · exact nofun
  · refine (answers_bind_of
      (answers_mapM (A := fun entry : CommandListHandle × SubmitAnchor =>
        entry.1 ∈ lists ∧ t.Reads entry.1 entry.2) fun list hlist => ?_)
      fun anchors hanchors => answers_pure ?_) t
    · exact answers_bind_lift fun device hdevice => answers_bind_lift fun anchor hanchor =>
        answers_pure ⟨hlist, device, hdevice, hanchor⟩
    · rintro _ ⟨⟩
      exact hanchors

/-! ## End -/

def AppendChange (append : InFlightAppend) (change : Change) : Prop :=
  change = .spendKernelId ∨ change = .append append.list append.command ∨
    ∃ ref anchor, ref.list = append.list ∧ append.anchor = some anchor ∧
      change = .call (Call.of ref append.list.asQueue anchor)

def SubmitChange (token : SubmitToken) (change : Change) : Prop :=
  (∃ list, change = .clear list) ∨
    ∃ entry ∈ token.anchors, ∃ ref, ref.list = entry.1 ∧
      change = .call (Call.of ref token.queue entry.2)

theorem exitAppend_changes (append : InFlightAppend) (result : DriverResult) :
    Within (ViaChanges (AppendChange append)) (exitAppend append result) := by
  cases result with
  | error e => exact (releaseCommand_within append.command).imp fun _ _ h => h.changes
  | ok _ =>
    refine (exitAppend_ok_within append (.inl rfl) (.inr (.inl rfl)) ?_).imp
      fun _ _ h => h.changes
    exact fun ref anchor hlist hanchor => .inr (.inr ⟨ref, anchor, hlist, hanchor, rfl⟩)

theorem exitExecute_changes (token : SubmitToken) (result : DriverResult) :
    Within (ViaRegistry (SubmitChange token)) (exitExecute token result) :=
  exitExecute_within token result (fun list => .inl ⟨list, rfl⟩)
    fun entry hentry ref hlist => .inr ⟨entry, hentry, ref, hlist, rfl⟩

theorem exitAppend_commands (hc : c ∈ (final (exitAppend append result) t).registry.commands) :
    (∃ c₀ ∈ t.registry.commands, c₀.signal = c.signal) ∨ append.command.signal = c.signal := by
  have hchanges := ((exitAppend_changes append result).final t).registry
  refine (hchanges.commands_from hc).imp_right ?_
  rintro ⟨list, command, h | h | ⟨ref, anchor, -, -, h⟩, hsignal⟩
  · cases h
  · cases h
    exact hsignal
  · cases h

theorem exitAppend_pending (hcall : call ∈ (final (exitAppend append result) t).registry.pending) :
    call ∈ t.registry.pending ∨
      call.command.list = append.list ∧ append.anchor = some call.anchor := by
  have hchanges := ((exitAppend_changes append result).final t).registry
  refine (hchanges.pending_from hcall).imp_right ?_
  rintro ⟨call₀, callId, h | h | ⟨ref, anchor, hlist, hanchor, h⟩, rfl⟩
  · cases h
  · cases h
  · cases h
    exact ⟨hlist, hanchor⟩

theorem exitExecute_pending (hcall : call ∈ (final (exitExecute token result) t).registry.pending) :
    call ∈ t.registry.pending ∨ (call.command.list, call.anchor) ∈ token.anchors := by
  have hchanges := ((exitExecute_changes token result).final t).changes.registry
  refine (hchanges.pending_from hcall).imp_right ?_
  rintro ⟨call₀, callId, ⟨list, h⟩ | ⟨⟨list, anchor⟩, hentry, ref, hlist, h⟩, rfl⟩
  · cases h
  · cases h
    obtain rfl : ref.list = list := hlist
    exact hentry

end GpuTrace.Tracing
