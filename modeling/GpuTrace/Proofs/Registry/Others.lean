import GpuTrace.Proofs.Registry.Reference

/-!
# Others — operations on some lists do not disturb the rest

All lists share the pending calls and the two counters, and an operation may stop halfway. Still
every change that an operation makes is a change of the list that it is addressed to
(`perform_confined`), or only spends a number. Such a change leaves the other lists with what they
have and their calls in order (`Move.undisturbed`), and so do requests one after the other
(`undisturbed_afterAll`), whatever faults are among them.
-/

namespace GpuTrace.Registry

open Fallible

/-- The list that a request is addressed to; a completed call is taken out by its place, and what is
known of kernels and images belongs to no list. -/
def Request.list? : Request → Option CommandListHandle
  | .createList list _ _ _ | .removeList list | .resetList list | .addCommand list _
  | .addCalls list _ _ => some list
  | .addCall call => some call.command.list
  | .removePending _ | .setGroupSize _ _ | .removeGroupSize _ | .addImage _ _ | .removeImage _ =>
    none

/-- A change of one of the lists, or of nothing but a counter. -/
def Change.Confined (lists : List CommandListHandle) : Change → Prop
  | .spendEpoch | .spendKernelId => True
  | .create list _ _ _ | .reset list | .remove list | .clear list | .append list _ => list ∈ lists
  | .call queued => queued.command.list ∈ lists
  | .take _ | .caches _ _ => False

/-- The other lists have what they had, their pending calls are in the order in which they were, and
nothing else was learned of kernels and images. -/
structure Undisturbed (lists : List CommandListHandle) (r r' : Registry) : Prop where
  list : ∀ other, other ∉ lists → r'.list other = r.list other
  pending : r'.pending.filter (·.command.list ∉ lists) = r.pending.filter (·.command.list ∉ lists)
  groupSizes : r'.groupSizes = r.groupSizes
  imageSizes : r'.imageSizes = r.imageSizes

variable {lists : List CommandListHandle} {list other : CommandListHandle} {r r' : Registry}

instance undisturbed_preorder : IsPreorder Registry (Undisturbed lists) where
  refl _ := ⟨fun _ _ => rfl, rfl, rfl, rfl⟩
  trans _ _ _ h h' := ⟨fun other hother => (h'.list other hother).trans (h.list other hother),
    h'.pending.trans h.pending, h'.groupSizes.trans h.groupSizes,
    h'.imageSizes.trans h.imageSizes⟩

namespace Undisturbed

theorem command (h : Undisturbed lists r r') {ref : CommandRef} (hother : ref.list ∉ lists) :
    r'.command ref = r.command ref := by
  unfold Registry.command
  rw [h.list ref.list hother]

theorem calls (h : Undisturbed lists r r') (hother : other ∉ lists) :
    r'.pending.filter (·.command.list = other) = r.pending.filter (·.command.list = other) := by
  have hof : ∀ calls : List Call, calls.filter (·.command.list = other) =
      (calls.filter (·.command.list ∉ lists)).filter (·.command.list = other) := by
    intro calls
    rw [List.filter_filter]
    refine List.filter_congr fun call _ => ?_
    by_cases hlist : call.command.list = other
    · simp [hlist, hother]
    · simp [hlist]
  rw [hof, hof r.pending, h.pending]

end Undisturbed

/-! ## Changes -/

theorem list_of_lists (h : r'.lists.get? other = r.lists.get? other) :
    r'.list other = r.list other := by
  unfold Registry.list
  rw [h]

theorem undisturbed_of_modify (hlist : list ∈ lists) (f : CommandList → CommandList)
    (nextKernelId nextEpoch : Nat) :
    Undisturbed lists r
      { r with lists := r.lists.modify list f, nextKernelId, nextEpoch } where
  list other hother := list_of_lists <| by
    rw [Table.get?_modify, if_neg (ne_of_mem_of_not_mem hlist hother).symm]
  pending := rfl
  groupSizes := rfl
  imageSizes := rfl

theorem Move.undisturbed {c : Change} (h : Move r c r') (hc : c.Confined lists) :
    Undisturbed lists r r' := by
  have hne : ∀ {list other : CommandListHandle}, list ∈ lists → other ∉ lists → other ≠ list :=
    fun hlist hother => (ne_of_mem_of_not_mem hlist hother).symm
  cases h with
  | spendEpoch | spendKernelId => exact ⟨fun _ _ => rfl, rfl, rfl, rfl⟩
  | create absent =>
    refine ⟨fun other hother => list_of_lists ?_, rfl, rfl, rfl⟩
    exact (Table.get?_insert _ _ _ _).trans (if_neg (hne hc hother))
  | reset found free | clear | append found => exact undisturbed_of_modify hc _ _ _
  | remove found free =>
    refine ⟨fun other hother => list_of_lists ?_, rfl, rfl, rfl⟩
    exact (Table.get?_erase _ _ _).trans (if_neg (hne hc hother))
  | @call call command found =>
    have hin : call.command.list ∈ lists := hc
    refine ⟨fun other hother => list_of_lists ?_, ?_, rfl, rfl⟩
    · exact (Table.get?_modify _ _ _ _).trans (if_neg (hne hin hother))
    · -- The new call is the last one, and it belongs to one of the lists.
      rw [List.filter_append, List.filter_cons_of_neg (by simpa using hin), List.filter_nil,
        List.append_nil]
  | take found | caches => exact hc.elim

theorem Reaches.undisturbed (h : Reaches (Change.Confined lists) r r') : Undisturbed lists r r' :=
  h.induct (refl_of (Undisturbed lists) r) fun _ _ _ hc hm hr =>
    trans_of (Undisturbed lists) hr (hm.undisturbed hc)

/-! ## Requests -/

/-- Whether it answers or stops, a request changes only the list that it is addressed to. -/
theorem perform_confined {q : Request} (hq : q.list? = some list) (hlist : list ∈ lists) :
    Within (Reaches (Change.Confined lists)) q.perform := by
  intro r
  have hsame : ∀ {r'}, r' = r → Reaches (Change.Confined lists) r r' := by
    rintro _ rfl
    exact refl_of (Reaches _) _
  cases q with
  | createList list' context device immediate =>
    cases hq
    exact (createList_ends context device immediate).imp
      (fun _ _ hm => hm.reaches hlist) (fun _ _ h => hsame h)
  | removeList list' =>
    cases hq
    exact ends_discard.mpr (removeList_ends.imp
      (fun _ _ h => h.1.reaches hlist) (fun _ _ hm => hm.reaches trivial))
  | resetList list' =>
    cases hq
    exact ends_discard.mpr (resetList_ends.imp
      (fun _ _ h => h.1.reaches hlist) (fun _ _ hm => hm.reaches trivial))
  | addCommand list' command =>
    cases hq
    exact ends_discard.mpr ((addCommand_ends command).imp
      (fun _ _ h => h.1.reaches hlist) (fun _ _ hm => hm.reaches trivial))
  | addCall call =>
    cases hq
    exact (addCall_ends call).imp (fun _ _ hm => hm.reaches hlist) (fun _ _ h => hsame h)
  | addCalls list' queue anchor =>
    cases hq
    refine ends_discard.mpr (within_addCalls list queue anchor hlist ?_ r)
    rintro _ rfl
    exact hlist
  | removePending | setGroupSize | removeGroupSize | addImage | removeImage => cases hq

theorem after_eq_final (r : Registry) (q : Request) : r.after q = final q.perform r := by
  unfold after final
  cases q.perform r <;> rfl

theorem undisturbed_after {q : Request} (hq : q.list? = some list) (hlist : list ∈ lists) :
    Undisturbed lists r (r.after q) := by
  rw [after_eq_final]
  exact ((perform_confined hq hlist).final r).undisturbed

theorem undisturbed_afterAll {requests : List Request}
    (h : ∀ q ∈ requests, ∃ list ∈ lists, q.list? = some list) :
    Undisturbed lists r (r.afterAll requests) := by
  induction requests generalizing r with
  | nil => exact refl_of (Undisturbed lists) r
  | cons q requests ih =>
    obtain ⟨⟨list, hlist, hq⟩, hrest⟩ := List.forall_mem_cons.mp h
    exact trans_of (Undisturbed lists) (undisturbed_after hq hlist) (ih hrest)

/-- Requests that are addressed to some lists leave every other list, the references into it and
its pending calls as they were, whether they answer or stop. -/
theorem others_undisturbed (r : Registry) (lists : List CommandListHandle)
    (requests : List Request) (h : ∀ q ∈ requests, ∃ list ∈ lists, q.list? = some list) :
    let r' := r.afterAll requests
    (∀ other, other ∉ lists → r'.list other = r.list other ∧
      r'.pending.filter (·.command.list = other) = r.pending.filter (·.command.list = other)) ∧
    (∀ ref : CommandRef, ref.list ∉ lists → r'.command ref = r.command ref) ∧
    r'.pending.filter (·.command.list ∉ lists) =
      r.pending.filter (·.command.list ∉ lists) ∧
    r'.groupSizes = r.groupSizes ∧ r'.imageSizes = r.imageSizes := by
  have hall := undisturbed_afterAll (r := r) h
  exact ⟨fun other hother => ⟨hall.list other hother, hall.calls hother⟩,
    fun ref hother => hall.command hother, hall.pending, hall.groupSizes, hall.imageSizes⟩

/-- Two lists with a command each, both of them called, the first one twice. -/
def shared : Registry :=
  let command : Command := ⟨.transfer "fill" 8, .borrowed ⟨9⟩, ⟨1⟩, 0, 5, 1000, 0⟩
  empty.afterAll
    [.createList ⟨4⟩ ⟨2⟩ ⟨1⟩ false, .createList ⟨5⟩ ⟨2⟩ ⟨1⟩ false, .addCommand ⟨4⟩ command,
      .addCommand ⟨5⟩ command, .addCalls ⟨4⟩ ⟨7⟩ ⟨6, 60⟩, .addCalls ⟨5⟩ ⟨7⟩ ⟨8, 80⟩,
      .addCalls ⟨4⟩ ⟨7⟩ ⟨9, 90⟩]

/-- A batch of the first list stops behind its first command, since the second one is newer than
the anchor; a reset of it and a second registration are refused. The call of the second list stays
between those of the first, and its command still counts one call. -/
theorem others_undisturbed_stopped :
    let late : Command := ⟨.transfer "copy" 8, .borrowed ⟨9⟩, ⟨1⟩, 0, 20, 1000, 0⟩
    let batch : Request := .addCalls ⟨4⟩ ⟨7⟩ ⟨15, 150⟩
    let requests := [.addCommand ⟨4⟩ late, batch, .resetList ⟨4⟩, .createList ⟨4⟩ ⟨2⟩ ⟨1⟩ true]
    let r' := shared.afterAll requests
    Ends batch.perform (shared.after (.addCommand ⟨4⟩ late)) (fun _ _ => False)
        (fun e _ => e = .batchBeforeAppend) ∧
      r'.pending.map (·.command.list) = [⟨4⟩, ⟨5⟩, ⟨4⟩, ⟨4⟩] ∧
      r'.pending.filter (·.command.list = ⟨5⟩) = [⟨⟨⟨5⟩, 1, 0⟩, ⟨7⟩, ⟨8, 80⟩, 1⟩] ∧
      r'.list ⟨5⟩ = shared.list ⟨5⟩ ∧ r'.callIds ⟨5⟩ = .ok [1] := by
  intro late batch requests r'
  obtain ⟨hlists, -⟩ := others_undisturbed shared [⟨4⟩] requests
    (by simp [requests, batch, Request.list?])
  obtain ⟨hlist, hcalls⟩ := hlists ⟨5⟩ (by decide)
  refine ⟨by decide +kernel, by decide +kernel, hcalls.trans (by decide +kernel), hlist, ?_⟩
  unfold callIds
  rw [hlist]
  rfl

end GpuTrace.Registry
