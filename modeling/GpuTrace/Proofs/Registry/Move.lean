import GpuTrace.Proofs.Outcome
import GpuTrace.Registry.Basic
import Mathlib.Logic.Relation

/-!
# Moves — what an operation can do to the registry

Every operation of the registry, whether it ends with an answer or with a fault,
is made of a few changes of one part. `Move` lists them with the condition under
which they happen; `createList_ends`, `removeList_ends`, ... say which of them each
operation makes. An invariant is then one case for each kind of change.

`Reaches P` allows any number of changes of the kinds in `P`.
-/

namespace GpuTrace

namespace CommandList

def blank (context : ContextHandle) (device : DeviceHandle) (immediate : Bool) (epoch : Nat) :
    CommandList :=
  { commands := #[], context, device, immediate, epoch, kernelIds := [], callIds := [] }

def emptied (epoch : Nat) (info : CommandList) : CommandList :=
  blank info.context info.device info.immediate epoch

def append (command : Command) (info : CommandList) : CommandList :=
  { info with
    kernelIds := info.kernelIds ++ [command.kernelId]
    commands := info.commands.push command }

def call (slot callId : Nat) (info : CommandList) : CommandList :=
  { info with
    commands := info.commands.modify slot fun c => { c with callCount := callId }
    callIds := info.callIds ++ [callId] }

def clear (info : CommandList) : CommandList :=
  { info with callIds := [] }

end CommandList

namespace Registry

open Fallible

/-! ## Looking up -/

theorem list_eq_ok_iff {r : Registry} {list : CommandListHandle} {info : CommandList} :
    r.list list = .ok info ↔ r.lists.get? list = some info := by
  unfold Registry.list
  cases r.lists.get? list <;> simp

theorem command_eq_ok_iff {r : Registry} {ref : CommandRef} {c : Command} :
    r.command ref = .ok c ↔ ∃ info, r.lists.get? ref.list = some info ∧
      info.epoch = ref.epoch ∧ info.commands[ref.slot]? = some c := by
  unfold command
  cases hl : r.list ref.list with
  | error e =>
    have hnone : ∀ info, r.lists.get? ref.list ≠ some info := by
      intro info h
      rw [list_eq_ok_iff.mpr h] at hl
      cases hl
    simp [hnone]
  | ok info =>
    have hsome := list_eq_ok_iff.mp hl
    by_cases he : info.epoch = ref.epoch
    · cases hc : info.commands[ref.slot]? <;> simp [hsome, he, hc]
    · simp [hsome, he]

theorem command_of_lists {r r' : Registry} (h : r'.lists = r.lists) (ref : CommandRef) :
    r'.command ref = r.command ref := by
  unfold command Registry.list
  rw [h]

theorem inUse_eq_false_iff {r : Registry} {list : CommandListHandle} {epoch : Nat} :
    r.inUse list epoch = false ↔
      ∀ call ∈ r.pending, call.command.list = list → call.command.epoch ≠ epoch := by
  simp [inUse]

/-! ## Changes -/

inductive Change
  /-- An epoch that no list gets. -/
  | spendEpoch
  /-- A kernel id that no command gets. -/
  | spendKernelId
  | create (list : CommandListHandle) (context : ContextHandle) (device : DeviceHandle)
      (immediate : Bool)
  | reset (list : CommandListHandle)
  | remove (list : CommandListHandle)
  /-- The call ids of a submission are forgotten. -/
  | clear (list : CommandListHandle)
  | append (list : CommandListHandle) (command : Command)
  | call (call : Call)
  | take (index : Nat)
  | caches (groupSizes : Table KernelHandle Dims) (imageSizes : Table ImageHandle UInt64)

def Change.frees? : Change → Option CommandListHandle
  | .reset list | .remove list => some list
  | _ => none

/-- A change that neither adds a command nor frees any nor takes a call out. -/
def Change.isPlain : Change → Bool
  | .append .. | .reset _ | .remove _ | .take _ => false
  | _ => true

/-- A change for an append or an execution: it brings a command or a call, or it clears a list
that is about to be called. -/
def Change.grows : Change → Bool
  | .append .. | .call _ | .clear _ => true
  | _ => false

/-- A change that leaves the lists with what they had, or with nothing; it makes no list. -/
def Change.tends : Change → Bool
  | .create .. => false
  | change => !change.grows

theorem Change.grows_of_tends {change : Change} (h : change.tends = true) :
    change.grows = false := by
  cases change <;> first | rfl | cases h

inductive Move : Registry → Change → Registry → Prop
  | spendEpoch {r} : Move r .spendEpoch { r with nextEpoch := r.nextEpoch + 1 }
  | spendKernelId {r} : Move r .spendKernelId { r with nextKernelId := r.nextKernelId + 1 }
  | create {r list context device immediate} (absent : r.lists.get? list = none) :
      Move r (.create list context device immediate) { r with
        lists := r.lists.insert list (.blank context device immediate r.nextEpoch)
        nextEpoch := r.nextEpoch + 1 }
  | reset {r list info} (found : r.lists.get? list = some info)
      (free : r.inUse list info.epoch = false) :
      Move r (.reset list) { r with
        lists := r.lists.modify list (CommandList.emptied r.nextEpoch)
        nextEpoch := r.nextEpoch + 1 }
  | remove {r list info} (found : r.lists.get? list = some info)
      (free : r.inUse list info.epoch = false) :
      Move r (.remove list) { r with
        lists := r.lists.erase list
        nextEpoch := r.nextEpoch + 1 }
  | clear {r list} : Move r (.clear list) { r with
      lists := r.lists.modify list CommandList.clear }
  | append {r list info command} (found : r.lists.get? list = some info) :
      Move r (.append list command) { r with
        lists := r.lists.modify list
          (CommandList.append { command with kernelId := r.nextKernelId })
        nextKernelId := r.nextKernelId + 1 }
  | call {r call command} (found : r.command call.command = .ok command) :
      Move r (.call call) { r with
        lists := r.lists.modify call.command.list
          (CommandList.call call.command.slot (command.callCount + 1))
        pending := r.pending ++ [{ call with callId := command.callCount + 1 }] }
  | take {r index call} (found : r.pending[index]? = some call) :
      Move r (.take index) { r with pending := r.pending.eraseIdx index }
  | caches {r groupSizes imageSizes} :
      Move r (.caches groupSizes imageSizes) { r with groupSizes, imageSizes }

/-- Any number of changes of the kinds in `P`. -/
def Reaches (P : Change → Prop) : Registry → Registry → Prop :=
  Relation.ReflTransGen fun r r' => ∃ c, P c ∧ Move r c r'

instance {P : Change → Prop} : IsPreorder Registry (Reaches P) :=
  inferInstanceAs (IsPreorder Registry (Relation.ReflTransGen _))

variable {P : Change → Prop}

theorem Move.reaches {r r' : Registry} {c : Change} (h : Move r c r') (hP : P c) :
    Reaches P r r' := .single ⟨c, hP, h⟩

theorem Reaches.imp {P' : Change → Prop} {r r' : Registry} (h : Reaches P r r')
    (hP : ∀ c, P c → P' c) : Reaches P' r r' :=
  Relation.ReflTransGen.mono (fun _ _ ⟨c, hc, hm⟩ => ⟨c, hP c hc, hm⟩) _ _ h

/-- Lists were emptied and forgotten, or made, but not both: no handle changed its list. -/
inductive Upkeep (r r' : Registry) : Prop
  | tended (h : Reaches (·.tends = true) r r')
  | made (h : Reaches
      (fun change => ∃ list context device immediate,
        change = .create list context device immediate) r r')

/-- What every change keeps, any number of changes keep. -/
theorem Reaches.induct {I : Registry → Prop} {r r' : Registry} (h : Reaches P r r') (hr : I r)
    (hstep : ∀ r c r', P c → Move r c r' → I r → I r') : I r' := by
  induction h with
  | refl => exact hr
  | tail _ hm ih =>
    obtain ⟨c, hc, hm⟩ := hm
    exact hstep _ c _ hc hm ih

/-! ## What a change does to references -/

section References

variable {r r' : Registry} {list : CommandListHandle} {ref : CommandRef} {c : Command}

theorem command_of_insert_blank {context : ContextHandle} {device : DeviceHandle}
    {immediate : Bool} {epoch : Nat} (absent : r.lists.get? list = none)
    (h : r'.lists = r.lists.insert list (.blank context device immediate epoch)) :
    r'.command ref = .ok c ↔ r.command ref = .ok c := by
  simp only [command_eq_ok_iff, h, Table.get?_insert]
  by_cases hl : ref.list = list
  · simp [hl, absent, CommandList.blank]
  · simp [hl]

theorem command_of_emptied {epoch : Nat}
    (h : r'.lists = r.lists.modify list (CommandList.emptied epoch)) :
    r'.command ref = .ok c ↔ ref.list ≠ list ∧ r.command ref = .ok c := by
  simp only [command_eq_ok_iff, h, Table.get?_modify]
  by_cases hl : ref.list = list
  · simp [hl, CommandList.emptied, CommandList.blank]
  · simp [hl]

theorem command_of_erase (h : r'.lists = r.lists.erase list) :
    r'.command ref = .ok c ↔ ref.list ≠ list ∧ r.command ref = .ok c := by
  simp only [command_eq_ok_iff, h, Table.get?_erase]
  by_cases hl : ref.list = list
  · simp [hl]
  · simp [hl]

theorem command_of_clear (h : r'.lists = r.lists.modify list CommandList.clear) :
    r'.command ref = .ok c ↔ r.command ref = .ok c := by
  simp only [command_eq_ok_iff, h, Table.get?_modify]
  by_cases hl : ref.list = list
  · cases hg : r.lists.get? list <;> simp [hl, hg, CommandList.clear]
  · simp [hl]

theorem command_of_append {info : CommandList} {command : Command}
    (found : r.lists.get? list = some info)
    (h : r'.lists = r.lists.modify list (CommandList.append command)) :
    r'.command ref = .ok c ↔
      r.command ref = .ok c ∨ ref = ⟨list, info.epoch, info.commands.size⟩ ∧ c = command := by
  obtain ⟨l, epoch, slot⟩ := ref
  simp only [command_eq_ok_iff, h, Table.get?_modify, CommandRef.mk.injEq]
  by_cases hl : l = list
  · subst hl
    simp only [found, CommandList.append, Option.map_some, if_true, Option.some.injEq,
      exists_eq_left', Array.getElem?_push]
    by_cases hs : slot = info.commands.size
    · simp [hs, eq_comm]
    · simp [hs]
  · simp [hl]

theorem command_of_call {ref₀ : CommandRef} {c₀ : Command} {callId : Nat}
    (found : r.command ref₀ = .ok c₀)
    (h : r'.lists = r.lists.modify ref₀.list (CommandList.call ref₀.slot callId)) :
    r'.command ref = .ok c ↔
      ref = ref₀ ∧ c = { c₀ with callCount := callId } ∨ ref ≠ ref₀ ∧ r.command ref = .ok c := by
  obtain ⟨l₀, epoch₀, slot₀⟩ := ref₀
  obtain ⟨l, epoch, slot⟩ := ref
  obtain ⟨info, hinfo, rfl, hslot⟩ := command_eq_ok_iff.mp found
  simp only [command_eq_ok_iff, h, Table.get?_modify, CommandRef.mk.injEq, ne_eq]
  by_cases hl : l = l₀
  · subst hl
    simp only at hinfo hslot
    simp only [hinfo, CommandList.call, Option.map_some, if_true, Option.some.injEq,
      exists_eq_left', Array.getElem?_modify]
    by_cases hs : slot₀ = slot
    · subst hs
      by_cases he : info.epoch = epoch
      · simp [he, hslot, eq_comm]
      · simp [he, Ne.symm he]
    · simp [hs, Ne.symm hs]
  · simp [hl]

end References

/-! ## The changes that each operation makes -/

section Operations

variable {r : Registry} {list : CommandListHandle}

theorem createList_ends (context : ContextHandle) (device : DeviceHandle) (immediate : Bool) :
    Ends (createList list context device immediate) r
      (fun _ r' => Move r (.create list context device immediate) r') (fun _ r' => r' = r) := by
  unfold Ends createList
  cases h : r.lists.contains list with
  | true => rfl
  | false => exact .create (Table.contains_eq_false_iff.mp h)

/-- Freeing spends an epoch; it needs a registered list that no call waits for. -/
theorem takeCommands_ends :
    Ends (takeCommands list) r
      (fun commands r' => ∃ info, r.lists.get? list = some info ∧
        r.inUse list info.epoch = false ∧ commands = info.commands ∧
        r' = { r with
          nextEpoch := r.nextEpoch + 1
          lists := r.lists.modify list fun i => { i with epoch := r.nextEpoch, commands := #[] } })
      (fun _ r' => Move r .spendEpoch r') := by
  unfold Ends takeCommands
  cases hl : r.list list with
  | error e => exact .spendEpoch
  | ok info =>
    cases hu : r.inUse list info.epoch with
    | true => simpa [hu] using Move.spendEpoch
    | false => simpa [hu] using ⟨info, list_eq_ok_iff.mp hl, hu, rfl⟩

theorem removeList_ends :
    Ends (removeList list) r
      (fun commands r' => Move r (.remove list) r' ∧
        ∃ info, r.lists.get? list = some info ∧ commands = info.commands)
      (fun _ r' => Move r .spendEpoch r') := by
  unfold removeList
  simp only [ends_bind, ends_modify, ends_pure]
  refine takeCommands_ends.imp ?_ fun _ _ h => h
  rintro commands r' ⟨info, found, free, rfl, rfl⟩
  simp only [Table.erase_modify]
  exact ⟨.remove found free, info, found, rfl⟩

theorem takeCommands_of_free {info : CommandList} (found : r.lists.get? list = some info)
    (free : r.inUse list info.epoch = false) :
    takeCommands list r = .ok info.commands { r with
      nextEpoch := r.nextEpoch + 1
      lists := r.lists.modify list fun i => { i with epoch := r.nextEpoch, commands := #[] } } := by
  unfold takeCommands
  rw [list_eq_ok_iff.mpr found]
  dsimp only
  rw [free]
  rfl

theorem takeCommands_of_inUse {info : CommandList} (found : r.lists.get? list = some info)
    (used : r.inUse list info.epoch = true) :
    takeCommands list r = .error (.listInUse list) { r with nextEpoch := r.nextEpoch + 1 } := by
  unfold takeCommands
  rw [list_eq_ok_iff.mpr found]
  dsimp only
  rw [used]
  rfl

theorem removeList_of_free {info : CommandList} (found : r.lists.get? list = some info)
    (free : r.inUse list info.epoch = false) :
    removeList list r = .ok info.commands
      { r with nextEpoch := r.nextEpoch + 1, lists := r.lists.erase list } := by
  refine (bind_of_ok (takeCommands_of_free found free)).trans
    ((bind_of_ok (modify_of_eq rfl)).trans ?_)
  rw [Table.erase_modify]
  rfl

theorem resetList_ends :
    Ends (resetList list) r
      (fun commands r' => Move r (.reset list) r' ∧
        ∃ info, r.lists.get? list = some info ∧ commands = info.commands)
      (fun _ r' => Move r .spendEpoch r') := by
  unfold resetList
  simp only [ends_bind, ends_modify, ends_pure]
  refine takeCommands_ends.imp ?_ fun _ _ h => h
  rintro commands r' ⟨info, found, free, rfl, rfl⟩
  simp only [Table.modify_modify]
  exact ⟨.reset found free, info, found, rfl⟩

theorem resetList_of_free {info : CommandList} (found : r.lists.get? list = some info)
    (free : r.inUse list info.epoch = false) :
    resetList list r = .ok info.commands { r with
      nextEpoch := r.nextEpoch + 1
      lists := r.lists.modify list (CommandList.emptied r.nextEpoch) } := by
  refine (bind_of_ok (takeCommands_of_free found free)).trans
    ((bind_of_ok (modify_of_eq rfl)).trans ?_)
  rw [Table.modify_modify]
  rfl

theorem addCommand_ends (command : Command) :
    Ends (addCommand list command) r
      (fun ref r' => Move r (.append list command) r' ∧
        ∃ info, r.lists.get? list = some info ∧ ref = ⟨list, info.epoch, info.commands.size⟩)
      (fun _ r' => Move r .spendKernelId r') := by
  unfold Ends addCommand
  cases hl : r.list list with
  | error e => exact .spendKernelId
  | ok info =>
    have found := list_eq_ok_iff.mp hl
    exact ⟨.append found, info, found, rfl⟩

theorem addCall_ends (call : Call) :
    Ends (addCall call) r (fun _ r' => Move r (.call call) r') (fun _ r' => r' = r) := by
  unfold Ends addCall
  cases hc : r.command call.command with
  | error e => rfl
  | ok command => exact .call hc

theorem addBatchCall_ends (ref : CommandRef) (queue : QueueHandle) (anchor : SubmitAnchor) :
    Ends (addBatchCall ref queue anchor) r
      (fun _ r' => Move r (.call (Call.of ref queue anchor)) r') (fun _ r' => r' = r) := by
  unfold addBatchCall
  simp only [ends_bind, ends_get, ends_lift]
  cases r.command ref with
  | error e => trivial
  | ok command =>
    by_cases h : anchor.hostTime < command.appendTime
    · simp [h]
    · simpa [h] using addCall_ends _

theorem removePending_ends (index : Nat) :
    Ends (removePending index) r
      (fun call r' => Move r (.take index) r' ∧ r.pending[index]? = some call)
      (fun _ r' => r' = r) := by
  unfold Ends removePending
  cases hp : r.pending[index]? with
  | none => rfl
  | some call => exact ⟨.take hp, rfl⟩

end Operations

/-! ## Within the changes that may be made -/

theorem within_addCalls (list : CommandListHandle) (queue : QueueHandle) (anchor : SubmitAnchor)
    (hclear : P (.clear list))
    (hcall : ∀ ref, ref.list = list → P (.call (Call.of ref queue anchor))) :
    Within (Reaches P) (addCalls list queue anchor) := by
  have hbatch : ∀ ref, ref.list = list → Within (Reaches P) (addBatchCall ref queue anchor) := by
    intro ref hlist r
    refine (addBatchCall_ends ref queue anchor).imp (fun _ _ hm => hm.reaches (hcall ref hlist)) ?_
    rintro _ _ rfl
    exact refl_of (Reaches P) _
  have hmodify : Within (Reaches P)
      (modify fun r => { r with lists := r.lists.modify list CommandList.clear }) :=
    fun r => Move.clear.reaches hclear
  unfold addCalls
  refine within_bind within_get fun r => within_bind (within_lift _) fun info => ?_
  split
  · exact within_bind (within_throw _) fun _ => within_bind hmodify fun _ =>
      within_bind (within_forM fun _ _ => hbatch _ rfl) fun _ => within_pure _
  · exact within_bind hmodify fun _ =>
      within_bind (within_forM fun _ _ => hbatch _ rfl) fun _ => within_pure _

theorem within_addImage (image : ImageHandle) (size : UInt64)
    (hcaches : ∀ groupSizes imageSizes, P (.caches groupSizes imageSizes)) :
    Within (Reaches P) (addImage image size) := fun r => by
  unfold Ends addImage
  dsimp only
  cases r.imageSizes.contains image <;> exact Move.caches.reaches (hcaches _ _)

theorem within_removeImage (image : ImageHandle)
    (hcaches : ∀ groupSizes imageSizes, P (.caches groupSizes imageSizes)) :
    Within (Reaches P) (removeImage image) := fun r => by
  unfold Ends removeImage
  cases r.imageSizes.contains image with
  | true => exact Move.caches.reaches (hcaches _ _)
  | false => exact refl_of (Reaches P) r

end Registry

end GpuTrace
