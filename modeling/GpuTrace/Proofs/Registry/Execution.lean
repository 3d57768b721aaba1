import GpuTrace.Proofs.Registry.Stop

/-!
# Executions — what a batch of lists does to a registry

`executed n` is a list after `n` executions: a deferred list has each of its commands called `n`
times more, and knows the call ids of the last time; an immediate one is as it was. `executions`
are the calls that a batch queues: entry by entry, with the number of times that the list of an
entry was executed before it.

`Executed` is the effect of a batch. It holds of one list on its own (`executed_deferred`,
`executed_immediate`), and what follows on a batch is counted on top of what was there before
(`Executed.trans`).
-/

namespace GpuTrace

open Fallible

/-! ## Lists -/

namespace CommandList

def executed (n : Nat) (info : CommandList) : CommandList :=
  if info.immediate = true ∨ n = 0 then info
  else
    { info with
      commands := info.commands.map fun c => { c with callCount := c.callCount + n }
      callIds := info.commands.toList.map (·.callCount + n) }

/-- The list can be executed at the anchor: it is timely, or has run already. -/
def Fits (anchor : SubmitAnchor) (info : CommandList) : Prop :=
  info.immediate = true ∨ ∀ c ∈ info.commands, c.appendTime ≤ anchor.hostTime

variable {info : CommandList} {n : Nat} {anchor : SubmitAnchor}

@[simp] theorem take_size (info : CommandList) :
    info.commands.toList.take info.commands.size = info.commands.toList :=
  List.take_of_length_le (by simp)

@[simp] theorem executed_zero (info : CommandList) : info.executed 0 = info :=
  if_pos (Or.inr rfl)

@[simp] theorem map_executed_zero (found : Option CommandList) :
    found.map (executed 0) = found := by
  cases found with
  | none => rfl
  | some info => simp

theorem executed_of_immediate (h : info.immediate = true) (n : Nat) : info.executed n = info :=
  if_pos (Or.inl h)

theorem executed_of_deferred (h : info.immediate = false) (hn : n ≠ 0) :
    info.executed n =
      { info with
        commands := info.commands.map fun c => { c with callCount := c.callCount + n }
        callIds := info.commands.toList.map (·.callCount + n) } :=
  if_neg (by simp [h, hn])

@[simp] theorem immediate_executed (info : CommandList) (n : Nat) :
    (info.executed n).immediate = info.immediate := by
  unfold executed
  split
  · rfl
  · rfl

@[simp] theorem epoch_executed (info : CommandList) (n : Nat) :
    (info.executed n).epoch = info.epoch := by
  unfold executed
  split
  · rfl
  · rfl

theorem commands_executed (h : info.immediate = false) (n : Nat) :
    (info.executed n).commands =
      info.commands.map fun c => { c with callCount := c.callCount + n } := by
  by_cases hn : n = 0
  · subst hn
    simp
  · rw [executed_of_deferred h hn]

theorem executed_executed (info : CommandList) (m n : Nat) :
    (info.executed m).executed n = info.executed (m + n) := by
  cases himmediate : info.immediate with
  | true => simp [executed_of_immediate, himmediate]
  | false =>
    by_cases hn : n = 0
    · simp [hn]
    · have hdeferred : (info.executed m).immediate = false := by simp [himmediate]
      have hsum : m + n ≠ 0 := by omega
      rw [executed_of_deferred hdeferred hn, executed_of_deferred himmediate hsum,
        commands_executed himmediate]
      unfold executed
      split
      · simp [Nat.add_assoc]
      · simp [Nat.add_assoc]

/-- Calling every command of a deferred list is one execution. -/
theorem called_clear (h : info.immediate = false) :
    info.clear.called info.commands.size = info.executed 1 := by
  have hcommands : (info.clear.called info.commands.size).commands =
      info.commands.map fun c => { c with callCount := c.callCount + 1 } := by
    apply Array.ext
    · simp [called, clear]
    · intro i hi _
      have hlt : i < info.commands.size := by simpa [called, clear] using hi
      simp [called, clear, hlt]
  rw [executed_of_deferred h Nat.one_ne_zero, ← hcommands]
  simp [called, clear]

theorem fits_executed (info : CommandList) (n : Nat) :
    (info.executed n).Fits anchor ↔ info.Fits anchor := by
  cases himmediate : info.immediate with
  | true => simp [executed_of_immediate, himmediate]
  | false => simp [Fits, himmediate, commands_executed]

end CommandList

/-! ## Batches -/

namespace Registry

variable {r r₁ r₂ : Registry} {queue : QueueHandle} {list : CommandListHandle}
  {anchor : SubmitAnchor} {entry : CommandListHandle × SubmitAnchor}
  {entries : List (CommandListHandle × SubmitAnchor)} {info : CommandList}

/-- The calls that an entry of a batch queues, if its list was executed `earlier` times before
in the batch. -/
def execution (r : Registry) (queue : QueueHandle) (entry : CommandListHandle × SubmitAnchor)
    (earlier : Nat) : List Call :=
  match r.lists.get? entry.1 with
  | some info =>
    if info.immediate then []
    else
      info.commands.toList.mapIdx fun slot c =>
        ⟨⟨entry.1, info.epoch, slot⟩, queue, entry.2, c.callCount + earlier + 1⟩
  | none => []

def namings (list : CommandListHandle) (entries : List (CommandListHandle × SubmitAnchor)) : Nat :=
  entries.countP (·.1 = list)

def executions (r : Registry) (queue : QueueHandle)
    (entries : List (CommandListHandle × SubmitAnchor)) : List Call :=
  (entries.mapIdx fun place entry =>
    r.execution queue entry (namings entry.1 (entries.take place))).flatten

/-- The list of the entry is registered and fits the anchor. -/
def Accepts (r : Registry) (entry : CommandListHandle × SubmitAnchor) : Prop :=
  ∃ info, r.lists.get? entry.1 = some info ∧ info.Fits entry.2

/-- **The effect of a batch.** Its calls wait behind the others, and each list was executed as
often as it was named. -/
structure Executed (queue : QueueHandle) (entries : List (CommandListHandle × SubmitAnchor))
    (r r' : Registry) : Prop where
  pending : r'.pending = r.pending ++ r.executions queue entries
  lists : ∀ list, r'.lists.get? list =
    (r.lists.get? list).map (CommandList.executed (namings list entries))
  keys : r'.lists.keys = r.lists.keys
  rest : r' = { r with lists := r'.lists, pending := r'.pending }

theorem namings_cons (list : CommandListHandle) (entry : CommandListHandle × SubmitAnchor)
    (entries : List (CommandListHandle × SubmitAnchor)) :
    namings list (entry :: entries) = namings list [entry] + namings list entries := by
  unfold namings
  rw [List.countP_cons, List.countP_singleton, Nat.add_comm]

theorem execution_of_deferred (found : r.lists.get? entry.1 = some info)
    (deferred : info.immediate = false) :
    r.execution queue entry 0 = info.calls entry.1 queue entry.2 info.commands.size := by
  simp [execution, found, deferred, CommandList.calls]

theorem execution_of_immediate (found : r.lists.get? entry.1 = some info)
    (immediate : info.immediate = true) (earlier : Nat) :
    r.execution queue entry earlier = [] := by
  simp [execution, found, immediate]

/-- What a list queues depends on how often it was executed before, not on when. -/
theorem execution_executed {m : Nat}
    (h : r₁.lists.get? entry.1 = (r.lists.get? entry.1).map (CommandList.executed m)) (n : Nat) :
    r₁.execution queue entry n = r.execution queue entry (m + n) := by
  unfold execution
  rw [h]
  cases found : r.lists.get? entry.1 with
  | none => rfl
  | some info =>
    cases himmediate : info.immediate with
    | true => simp [himmediate]
    | false =>
      simp only [Option.map_some, CommandList.immediate_executed, CommandList.epoch_executed,
        himmediate, Bool.false_eq_true, if_false, CommandList.commands_executed]
      apply List.ext_getElem?
      intro slot
      simp [Function.comp_def, Nat.add_assoc]

theorem executed_nil (queue : QueueHandle) (r : Registry) : Executed queue [] r r where
  pending := by simp [executions]
  lists list := by simp [namings]
  keys := rfl
  rest := rfl

theorem Executed.executions_cons (h : Executed queue [entry] r r₁) :
    r.executions queue (entry :: entries) =
      r.execution queue entry 0 ++ r₁.executions queue entries := by
  have hlater : ∀ (place : Nat) (later : CommandListHandle × SubmitAnchor),
      r.execution queue later (namings later.1 ((entry :: entries).take (place + 1))) =
        r₁.execution queue later (namings later.1 (entries.take place)) := by
    intro place later
    rw [execution_executed (h.lists later.1), List.take_succ_cons, namings_cons]
  unfold executions
  rw [List.mapIdx_cons, List.flatten_cons]
  simp only [hlater]
  rfl

/-- **A batch after a batch.** The second one is executed on what the first one left. -/
theorem Executed.trans (h : Executed queue [entry] r r₁) (h' : Executed queue entries r₁ r₂) :
    Executed queue (entry :: entries) r r₂ where
  pending := by
    have hfirst : r.executions queue [entry] = r.execution queue entry 0 := by
      simp [executions, namings]
    rw [h'.pending, h.pending, hfirst, h.executions_cons, List.append_assoc]
  lists list := by
    rw [h'.lists, h.lists, Option.map_map, namings_cons list entry entries]
    refine Option.map_congr fun info _ => ?_
    exact CommandList.executed_executed info _ _
  keys := h'.keys.trans h.keys
  rest := by
    rw [h'.rest, h.rest]

/-- What a batch accepts does not depend on what was executed before. -/
theorem Executed.accepts_iff (h : Executed queue entries r r₁) :
    r₁.Accepts entry ↔ r.Accepts entry := by
  unfold Accepts
  rw [h.lists]
  cases found : r.lists.get? entry.1 with
  | none => simp
  | some info => simp [CommandList.fits_executed]

/-- An immediate list is executed by doing nothing. -/
theorem executed_immediate (found : r.lists.get? entry.1 = some info)
    (immediate : info.immediate = true) : Executed queue [entry] r r where
  pending := by
    simp [executions, execution_of_immediate found immediate]
  lists list := by
    by_cases heq : entry.1 = list
    · subst heq
      rw [found, Option.map_some, CommandList.executed_of_immediate immediate]
    · have hnone : namings list [entry] = 0 := by simp [namings, heq]
      simp [hnone]
  keys := rfl
  rest := rfl

/-- A deferred list is executed by calling all of its commands. -/
theorem executed_deferred (found : r.lists.get? entry.1 = some info)
    (deferred : info.immediate = false) :
    Executed queue [entry] r
      (r.calledTo entry.1 info.clear queue entry.2 info.commands.size) where
  pending := by
    have hcalls : r.executions queue [entry] =
        info.calls entry.1 queue entry.2 info.commands.size := by
      simp [executions, namings, execution_of_deferred found deferred]
    rw [hcalls]
    rfl
  lists list := by
    by_cases heq : entry.1 = list
    · subst heq
      have hone : namings entry.1 [entry] = 1 := by simp [namings]
      have hput : (r.calledTo entry.1 info.clear queue entry.2 info.commands.size).lists.get?
          entry.1 = some (info.clear.called info.commands.size) := get?_put found _
      rw [hput, found, hone, CommandList.called_clear deferred]
      rfl
    · have hnone : namings list [entry] = 0 := by simp [namings, heq]
      have hput : (r.calledTo entry.1 info.clear queue entry.2 info.commands.size).lists.get?
          list = r.lists.get? list := get?_put_ne (Ne.symm heq) _
      simp [hput, hnone]
  keys := Table.keys_modifyIn _ _ _
  rest := rfl

/-- **Executing a deferred list** answers exactly if the list fits the anchor. -/
theorem addCalls_executed (found : r.lists.get? entry.1 = some info)
    (deferred : info.immediate = false) :
    Ends (addCalls entry.1 queue entry.2) r
      (fun _ r' => r.Accepts entry ∧ Executed queue [entry] r r')
      (fun _ _ => ¬ r.Accepts entry) := by
  have hiff : r.Accepts entry ↔ info.timely entry.2 = info.commands.size := by
    rw [CommandList.timely_eq_size_iff]
    simp [Accepts, found, CommandList.Fits, deferred]
  by_cases htimely : info.timely entry.2 = info.commands.size
  · refine ends_of_ok ((addCalls_eq found deferred).trans (if_pos htimely)) ?_
    exact ⟨hiff.mpr htimely, executed_deferred found deferred⟩
  · refine ends_of_error ((addCalls_eq found deferred).trans (if_neg htimely)) ?_
    exact fun h => htimely (hiff.mp h)

end Registry

end GpuTrace
