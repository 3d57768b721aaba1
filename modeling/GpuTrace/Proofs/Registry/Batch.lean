import GpuTrace.Proofs.Registry.Move

/-!
# Batches — what executing lists queues

Executing a deferred list queues one call for each of its commands, in slot order and with the
queue and the anchor of the execution, behind the calls that are pending already
(`addCalls_queues`). An immediate list queues nothing: its batch is empty.

Of the lists themselves an execution changes call counts and call ids only. What is left of a
list without these is its `outline`; it decides the batch of the list (`SameOutline.batch`) and
which commands can be referred to (`SameOutline.command`).
-/

namespace GpuTrace

/-- The list as if nothing of it had been called. -/
def CommandList.outline (info : CommandList) : CommandList :=
  { info with
    commands := info.commands.map fun c => { c with callCount := 0 }
    callIds := [] }

theorem CommandList.outline_call (slot callId : Nat) (info : CommandList) :
    (info.call slot callId).outline = info.outline := by
  have hcommands : (info.commands.modify slot fun c => { c with callCount := callId }).map
      (fun c => { c with callCount := 0 }) =
        info.commands.map fun c => { c with callCount := 0 } := by
    apply Array.ext
    · simp
    · intro i h h'
      simp only [Array.getElem_map, Array.getElem_modify]
      split <;> rfl
  unfold CommandList.outline CommandList.call
  rw [hcommands]

/-- Command, queue and anchor of a call: all of it but its number. -/
def Call.origin (call : Call) : CommandRef × QueueHandle × SubmitAnchor :=
  (call.command, call.queue, call.anchor)

namespace Registry

open Fallible

variable {r r' : Registry} {list : CommandListHandle}

/-- References to the commands that an execution of the list queues calls of, in order. -/
def batch (r : Registry) (list : CommandListHandle) : List CommandRef :=
  match r.lists.get? list with
  | some info =>
    if info.immediate then []
    else (List.range info.commands.size).map fun slot => ⟨list, info.epoch, slot⟩
  | none => []

/-! ## Outlines -/

def SameOutline (r r' : Registry) : Prop :=
  ∀ list, (r'.lists.get? list).map CommandList.outline =
    (r.lists.get? list).map CommandList.outline

instance : IsPreorder Registry SameOutline where
  refl _ _ := rfl
  trans _ _ _ h h' list := (h' list).trans (h list)

theorem SameOutline.symm (h : SameOutline r r') : SameOutline r' r :=
  fun list => (h list).symm

theorem sameOutline_modify {f : CommandList → CommandList}
    (hf : ∀ info : CommandList, (f info).outline = info.outline)
    (h : r'.lists = r.lists.modify list f) : SameOutline r r' := by
  intro l
  rw [h, Table.get?_modify]
  split
  · cases r.lists.get? l <;> simp [hf]
  · rfl

theorem SameOutline.batch (h : SameOutline r r') (list : CommandListHandle) :
    r'.batch list = r.batch list := by
  have hlist := h list
  unfold Registry.batch
  cases hr : r.lists.get? list with
  | none =>
    rw [hr] at hlist
    rw [Option.map_eq_none_iff.mp hlist]
  | some info =>
    rw [hr] at hlist
    obtain ⟨info', hr', houtline⟩ := Option.map_eq_some_iff.mp hlist
    have himmediate : info'.outline.immediate = info.outline.immediate := by rw [houtline]
    have hepoch : info'.outline.epoch = info.outline.epoch := by rw [houtline]
    change info'.immediate = info.immediate at himmediate
    change info'.epoch = info.epoch at hepoch
    have hsize : info'.commands.size = info.commands.size := by
      simpa [CommandList.outline] using congrArg (·.commands.size) houtline
    rw [hr']
    simp only [himmediate, hepoch, hsize]

theorem SameOutline.command (h : SameOutline r r') {ref : CommandRef} {c : Command}
    (hc : r.command ref = .ok c) : ∃ n, r'.command ref = .ok { c with callCount := n } := by
  obtain ⟨info, hinfo, hepoch, hslot⟩ := command_eq_ok_iff.mp hc
  have hlist := h ref.list
  rw [hinfo] at hlist
  obtain ⟨info', hinfo', houtline⟩ := Option.map_eq_some_iff.mp hlist
  have hepoch' : info'.outline.epoch = info.outline.epoch := by rw [houtline]
  change info'.epoch = info.epoch at hepoch'
  have hcommands := congrArg (·.commands[ref.slot]?) houtline
  simp only [CommandList.outline, Array.getElem?_map, hslot, Option.map_some] at hcommands
  obtain ⟨c', hc', hsame⟩ := Option.map_eq_some_iff.mp hcommands
  refine ⟨c'.callCount, command_eq_ok_iff.mpr ⟨info', hinfo', hepoch'.trans hepoch, ?_⟩⟩
  rw [hc', Option.some.injEq]
  cases c'
  cases c
  simpa using hsame

/-! ## Queueing -/

/-- The batch of the references is queued: one call of each, in order. -/
def Queues (r : Registry) (refs : List CommandRef) (queue : QueueHandle) (anchor : SubmitAnchor)
    (r' : Registry) : Prop :=
  SameOutline r r' ∧ ∃ calls, r'.pending = r.pending ++ calls ∧
    calls.map Call.origin = refs.map fun ref => (ref, queue, anchor)

theorem addBatchCall_queues (ref : CommandRef) (queue : QueueHandle) (anchor : SubmitAnchor) :
    Ends (addBatchCall ref queue anchor) r (fun _ r' => Queues r [ref] queue anchor r')
      (fun _ _ => True) := by
  refine (addBatchCall_ends ref queue anchor).imp ?_ fun _ _ _ => trivial
  rintro - _ hm
  cases hm with
  | call found =>
    exact ⟨sameOutline_modify (CommandList.outline_call _ _) rfl, _, rfl, rfl⟩

theorem forM_queues (slots : List Nat) (ref : Nat → CommandRef) (queue : QueueHandle)
    (anchor : SubmitAnchor) :
    Ends (slots.forM fun slot => addBatchCall (ref slot) queue anchor) r
      (fun _ r' => Queues r (slots.map ref) queue anchor r') (fun _ _ => True) := by
  induction slots generalizing r with
  | nil => exact ⟨refl_of SameOutline r, [], (List.append_nil _).symm, rfl⟩
  | cons slot slots ih =>
    show Ends (addBatchCall (ref slot) queue anchor >>= fun _ =>
      slots.forM fun slot => addBatchCall (ref slot) queue anchor) r _ _
    rw [ends_bind]
    refine (addBatchCall_queues (ref slot) queue anchor).imp ?_ fun _ _ h => h
    rintro - r₁ ⟨hsame, calls, hpending, horigins⟩
    refine ih.imp ?_ fun _ _ h => h
    rintro - r₂ ⟨hsame', calls', hpending', horigins'⟩
    refine ⟨trans_of SameOutline hsame hsame', calls ++ calls', ?_, ?_⟩
    · rw [hpending', hpending, List.append_assoc]
    · rw [List.map_append, horigins, horigins']
      rfl

/-- Executing a deferred list queues its batch. -/
theorem addCalls_queues (queue : QueueHandle) (anchor : SubmitAnchor) :
    Ends (addCalls list queue anchor) r
      (fun _ r' => Queues r (r.batch list) queue anchor r') (fun _ _ => True) := by
  unfold addCalls
  simp only [ends_bind, ends_get, ends_lift]
  cases hl : r.list list with
  | error e => trivial
  | ok info =>
    have hinfo := list_eq_ok_iff.mp hl
    dsimp only
    cases himmediate : info.immediate with
    | true => trivial
    | false =>
      have hbatch : r.batch list =
          (List.range info.commands.size).map fun slot => ⟨list, info.epoch, slot⟩ := by
        simp [batch, hinfo, himmediate]
      have hcleared : SameOutline r
          { r with lists := r.lists.modify list fun i => { i with callIds := [] } } :=
        sameOutline_modify (f := CommandList.clear) (fun _ => rfl) rfl
      simp only [Bool.false_eq_true, if_false, ends_bind, ends_modify, ends_pure]
      rw [hbatch]
      refine (forM_queues _ _ queue anchor).imp ?_ fun _ _ h => h
      rintro - r' ⟨hsame, hcalls⟩
      exact ⟨trans_of SameOutline hcleared hsame, hcalls⟩

end Registry

end GpuTrace
