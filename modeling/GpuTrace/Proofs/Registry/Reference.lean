import GpuTrace.Proofs.Registry.WellFormed

/-!
# References — a reference answers its own command or none

A reference that `addCommand` answered stands for the command that was appended.
Later requests, in any order and with any faults among them, leave it in one of two
phases: it is `Live` as long as the commands of its list are not freed, and only the
call count of its command grows; it is `Spent` from the first successful reset or
removal of the list, and stays so when the handle of the list is used again.

Main facts: `Live.afterAll`, `Spent.afterAll` and `command_of_issued`.
-/

namespace GpuTrace.Registry

open Fallible

/-! ## Requests -/

inductive Request
  | createList (list : CommandListHandle) (context : ContextHandle) (device : DeviceHandle)
      (immediate : Bool)
  | removeList (list : CommandListHandle)
  | resetList (list : CommandListHandle)
  | addCommand (list : CommandListHandle) (command : Command)
  | addCall (call : Call)
  | addCalls (list : CommandListHandle) (queue : QueueHandle) (anchor : SubmitAnchor)
  | removePending (index : Nat)
  | setGroupSize (kernel : KernelHandle) (size : Dims)
  | removeGroupSize (kernel : KernelHandle)
  | addImage (image : ImageHandle) (size : UInt64)
  | removeImage (image : ImageHandle)

namespace Request

def perform : Request → Fallible Registry Unit
  | .createList list context device immediate => Registry.createList list context device immediate
  | .removeList list => discard (Registry.removeList list)
  | .resetList list => discard (Registry.resetList list)
  | .addCommand list command => discard (Registry.addCommand list command)
  | .addCall call => Registry.addCall call
  | .addCalls list queue anchor => discard (Registry.addCalls list queue anchor)
  | .removePending index => discard (Registry.removePending index)
  | .setGroupSize kernel size => modify (·.setGroupSize kernel size)
  | .removeGroupSize kernel => modify (·.removeGroupSize kernel)
  | .addImage image size => Registry.addImage image size
  | .removeImage image => Registry.removeImage image

def teardown? : Request → Option CommandListHandle
  | .removeList list | .resetList list => some list
  | _ => none

end Request

/-- The registry after a request, also if it stopped with a fault. -/
def after (r : Registry) (q : Request) : Registry :=
  match q.perform r with
  | .ok _ r' | .error _ r' => r'

def afterAll (r : Registry) (requests : List Request) : Registry :=
  requests.foldl after r

@[simp] theorem afterAll_cons (r : Registry) (q : Request) (requests : List Request) :
    r.afterAll (q :: requests) = (r.after q).afterAll requests := rfl

def frees (r : Registry) (list : CommandListHandle) (q : Request) : Bool :=
  match q.perform r with
  | .ok _ _ => q.teardown? == some list
  | .error _ _ => false

def freesAmong (r : Registry) (list : CommandListHandle) : List Request → Bool
  | [] => false
  | q :: requests => r.frees list q || (r.after q).freesAmong list requests

/-! ## The changes of a request -/

/-- A teardown that succeeds frees the commands of its list; everything else that a
request does frees nothing. -/
theorem perform_ends (r : Registry) (q : Request) :
    Ends q.perform r
      (fun _ r' => match q.teardown? with
        | some list => ∃ c, c.frees? = some list ∧ Move r c r'
        | none => Reaches (fun c => c.frees? = none) r r')
      (fun _ r' => Reaches (fun c => c.frees? = none) r r') := by
  have hsame : ∀ {r'}, r' = r → Reaches (fun c => c.frees? = none) r r' := by
    rintro _ rfl
    exact refl_of (Reaches _) _
  cases q with
  | createList list context device immediate =>
    exact (createList_ends context device immediate).imp
      (fun _ _ hm => hm.reaches rfl) (fun _ _ h => hsame h)
  | removeList list =>
    refine ends_discard.mpr (removeList_ends.imp ?_ fun _ _ hm => hm.reaches rfl)
    rintro _ _ ⟨hm, -⟩
    exact ⟨_, rfl, hm⟩
  | resetList list =>
    refine ends_discard.mpr (resetList_ends.imp ?_ fun _ _ hm => hm.reaches rfl)
    rintro _ _ ⟨hm, -⟩
    exact ⟨_, rfl, hm⟩
  | addCommand list command =>
    exact ends_discard.mpr ((addCommand_ends command).imp
      (fun _ _ h => h.1.reaches rfl) (fun _ _ hm => hm.reaches rfl))
  | addCall call =>
    exact (addCall_ends call).imp (fun _ _ hm => hm.reaches rfl) (fun _ _ h => hsame h)
  | addCalls list queue anchor =>
    exact ends_discard.mpr
      (within_addCalls (P := fun c => c.frees? = none) list queue anchor rfl (fun _ _ => rfl) r)
  | removePending index =>
    exact ends_discard.mpr ((removePending_ends index).imp
      (fun _ _ h => h.1.reaches rfl) (fun _ _ h => hsame h))
  | setGroupSize kernel size => exact Move.caches.reaches rfl
  | removeGroupSize kernel => exact Move.caches.reaches rfl
  | addImage image size => exact within_addImage image size (fun _ _ => rfl) r
  | removeImage image => exact within_removeImage image (fun _ _ => rfl) r

theorem after_changes (r : Registry) (list : CommandListHandle) (q : Request) :
    if r.frees list q then ∃ c, c.frees? = some list ∧ Move r c (r.after q)
    else Reaches (fun c => c.frees? ≠ some list) r (r.after q) := by
  have hends := perform_ends r q
  have hnone : ∀ {r'}, Reaches (fun c => c.frees? = none) r r' →
      Reaches (fun c => c.frees? ≠ some list) r r' := fun h =>
    h.imp fun c hc => by simp [hc]
  unfold frees after
  cases hq : q.perform r with
  | error e r' => exact hnone (hends.of_error hq)
  | ok a r' =>
    have h := hends.of_ok hq
    dsimp only at h ⊢
    cases ht : q.teardown? with
    | none =>
      rw [ht] at h
      simpa using hnone h
    | some list' =>
      rw [ht] at h
      by_cases hl : list' = list
      · simpa [hl] using h
      · obtain ⟨c, hc, hm⟩ := h
        simpa [hl] using hm.reaches (show c.frees? ≠ some list by simp [hc, hl])

theorem after_reaches (r : Registry) (q : Request) : Reaches (fun _ => True) r (r.after q) := by
  have hends : Ends q.perform r (fun _ r' => Reaches (fun _ => True) r r')
      (fun _ r' => Reaches (fun _ => True) r r') := by
    refine (perform_ends r q).imp ?_ fun _ _ h => h.imp fun _ _ => trivial
    intro _ r' h
    cases ht : q.teardown? with
    | none =>
      rw [ht] at h
      exact h.imp fun _ _ => trivial
    | some list =>
      rw [ht] at h
      obtain ⟨c, -, hm⟩ := h
      exact hm.reaches trivial
  unfold after
  cases hq : q.perform r with
  | ok a r' => exact hends.of_ok hq
  | error e r' => exact hends.of_error hq

/-- Requests, faults among them or not, keep a registry well formed. -/
theorem WellFormed.afterAll {r : Registry} (h : r.WellFormed) (requests : List Request) :
    (r.afterAll requests).WellFormed := by
  induction requests generalizing r with
  | nil => exact h
  | cons q requests ih => exact ih (h.reaches (after_reaches r q))

/-! ## The two phases of a reference -/

/-- The reference answers `issued`, with some more calls. -/
structure Live (ref : CommandRef) (issued : Command) (r : Registry) : Prop where
  epoch_lt : ref.epoch < r.nextEpoch
  answers : ∃ callCount, issued.callCount ≤ callCount ∧
    r.command ref = .ok { issued with callCount }

/-- The epoch of the reference is over. -/
structure Spent (ref : CommandRef) (r : Registry) : Prop where
  epoch_lt : ref.epoch < r.nextEpoch
  epoch_ne : ∀ info, r.lists.get? ref.list = some info → info.epoch ≠ ref.epoch

variable {r r' : Registry} {ref : CommandRef} {issued : Command}

theorem live_of_command (h : r.WellFormed) (hc : r.command ref = .ok issued) :
    Live ref issued r := by
  obtain ⟨info, hinfo, hepoch, -⟩ := command_eq_ok_iff.mp hc
  exact ⟨hepoch ▸ h.epoch_lt _ info hinfo, issued.callCount, Nat.le_refl _, hc⟩

/-- A spent reference is refused. -/
theorem Spent.command_error (h : Spent ref r) : ∃ e, r.command ref = .error e := by
  cases hc : r.command ref with
  | error e => exact ⟨e, rfl⟩
  | ok c =>
    obtain ⟨info, hinfo, hepoch, -⟩ := command_eq_ok_iff.mp hc
    exact absurd hepoch (h.epoch_ne info hinfo)

/-- A live reference stays live through every change that frees other lists or none. -/
theorem Live.move {c : Change} (h : Live ref issued r) (hm : Move r c r')
    (hc : c.frees? ≠ some ref.list) : Live ref issued r' := by
  obtain ⟨hlt, callCount, hle, hans⟩ := h
  cases hm with
  | spendEpoch => exact ⟨Nat.lt_succ_of_lt hlt, callCount, hle, hans⟩
  | spendKernelId => exact ⟨hlt, callCount, hle, hans⟩
  | take found => exact ⟨hlt, callCount, hle, hans⟩
  | caches => exact ⟨hlt, callCount, hle, hans⟩
  | create absent =>
    exact ⟨Nat.lt_succ_of_lt hlt, callCount, hle, (command_of_insert_blank absent rfl).mpr hans⟩
  | @reset list info found free =>
    have hne : ref.list ≠ list := fun hl => hc (by rw [hl]; rfl)
    exact ⟨Nat.lt_succ_of_lt hlt, callCount, hle, (command_of_emptied rfl).mpr ⟨hne, hans⟩⟩
  | @remove list info found free =>
    have hne : ref.list ≠ list := fun hl => hc (by rw [hl]; rfl)
    exact ⟨Nat.lt_succ_of_lt hlt, callCount, hle, (command_of_erase rfl).mpr ⟨hne, hans⟩⟩
  | clear => exact ⟨hlt, callCount, hle, (command_of_clear rfl).mpr hans⟩
  | append found =>
    exact ⟨hlt, callCount, hle, (command_of_append found rfl).mpr (.inl hans)⟩
  | @call call command found =>
    by_cases href : ref = call.command
    · subst href
      rw [hans] at found
      cases found
      exact ⟨hlt, callCount + 1, Nat.le_succ_of_le hle,
        (command_of_call hans rfl).mpr (.inl ⟨rfl, rfl⟩)⟩
    · exact ⟨hlt, callCount, hle, (command_of_call found rfl).mpr (.inr ⟨href, hans⟩)⟩

/-- Freeing the list of a live reference spends it: no epoch is drawn twice. -/
theorem Live.spent {c : Change} (h : Live ref issued r) (hm : Move r c r')
    (hc : c.frees? = some ref.list) : Spent ref r' := by
  have hlt := h.epoch_lt
  cases hm with
  | @reset list info found free =>
    cases Option.some.inj hc
    refine ⟨Nat.lt_succ_of_lt hlt, ?_⟩
    intro info' hinfo'
    rw [Table.get?_modify, if_pos rfl] at hinfo'
    obtain ⟨old, -, rfl⟩ := Option.map_eq_some_iff.mp hinfo'
    exact Nat.ne_of_gt hlt
  | @remove list info found free =>
    cases Option.some.inj hc
    refine ⟨Nat.lt_succ_of_lt hlt, ?_⟩
    intro info' hinfo'
    rw [Table.get?_erase, if_pos rfl] at hinfo'
    cases hinfo'
  | _ => cases hc

/-- A spent reference stays spent, also when its list is created anew. -/
theorem Spent.move {c : Change} (h : Spent ref r) (hm : Move r c r') : Spent ref r' := by
  obtain ⟨hlt, hne⟩ := h
  have hmodify : ∀ (list : CommandListHandle) (f : CommandList → CommandList),
      (∀ info, (f info).epoch = info.epoch ∨ (f info).epoch = r.nextEpoch) →
      ∀ info, (r.lists.modify list f).get? ref.list = some info → info.epoch ≠ ref.epoch := by
    intro list f hf info hinfo
    rw [Table.get?_modify] at hinfo
    split at hinfo
    · obtain ⟨old, hold, rfl⟩ := Option.map_eq_some_iff.mp hinfo
      rcases hf old with he | he
      · rw [he]
        exact hne old hold
      · omega
    · exact hne info hinfo
  cases hm with
  | spendEpoch => exact ⟨Nat.lt_succ_of_lt hlt, hne⟩
  | spendKernelId => exact ⟨hlt, hne⟩
  | take found => exact ⟨hlt, hne⟩
  | caches => exact ⟨hlt, hne⟩
  | create absent =>
    refine ⟨Nat.lt_succ_of_lt hlt, ?_⟩
    intro info hinfo
    rw [Table.get?_insert] at hinfo
    split at hinfo
    · cases hinfo
      exact Nat.ne_of_gt hlt
    · exact hne info hinfo
  | reset found free => exact ⟨Nat.lt_succ_of_lt hlt, hmodify _ _ fun _ => .inr rfl⟩
  | remove found free =>
    refine ⟨Nat.lt_succ_of_lt hlt, ?_⟩
    intro info hinfo
    rw [Table.get?_erase] at hinfo
    split at hinfo
    · cases hinfo
    · exact hne info hinfo
  | clear => exact ⟨hlt, hmodify _ _ fun _ => .inl rfl⟩
  | append found => exact ⟨hlt, hmodify _ _ fun _ => .inl rfl⟩
  | call found => exact ⟨hlt, hmodify _ _ fun _ => .inl rfl⟩

/-! ## References over time -/

theorem Spent.afterAll (h : Spent ref r) (requests : List Request) :
    Spent ref (r.afterAll requests) := by
  induction requests generalizing r with
  | nil => exact h
  | cons q requests ih =>
    exact ih ((after_reaches r q).induct h fun _ _ _ _ hm hs => hs.move hm)

/-- The phase of a reference is decided by whether its list was freed since. -/
theorem Live.afterAll (h : Live ref issued r) (requests : List Request) :
    if r.freesAmong ref.list requests then Spent ref (r.afterAll requests)
    else Live ref issued (r.afterAll requests) := by
  induction requests generalizing r with
  | nil => exact h
  | cons q requests ih =>
    have hq := after_changes r ref.list q
    unfold freesAmong
    cases hfree : r.frees ref.list q with
    | true =>
      rw [hfree, if_pos rfl] at hq
      obtain ⟨c, hc, hm⟩ := hq
      simpa using (h.spent hm hc).afterAll requests
    | false =>
      rw [hfree, if_neg Bool.false_ne_true] at hq
      have hlive : Live ref issued (r.after q) :=
        hq.induct h fun _ _ _ hc hm hl => hl.move hm hc
      simpa using ih hlive

theorem live_of_addCommand {list : CommandListHandle} {command : Command} (h : r.WellFormed)
    (issue : addCommand list command r = .ok ref r') :
    ref.list = list ∧ r'.command ref = .ok { command with kernelId := r.nextKernelId } ∧
      ref.epoch < r'.nextEpoch := by
  obtain ⟨hm, info, found, rfl⟩ := (addCommand_ends command).of_ok issue
  cases hm with
  | append found' =>
    rw [found] at found'
    cases found'
    exact ⟨rfl, (command_of_append found rfl).mpr (.inr ⟨rfl, rfl⟩), h.epoch_lt list info found⟩

/-- A reference answers the command that it was issued for, with the calls made since,
until its list is reset or removed, and a fault from then on. -/
theorem command_of_issued (before later : List Request) (list : CommandListHandle)
    (command : Command) (issue : addCommand list command (empty.afterAll before) = .ok ref r) :
    let issued := { command with kernelId := (empty.afterAll before).nextKernelId }
    r.command ref = .ok issued ∧
      if r.freesAmong list later then ∃ e, (r.afterAll later).command ref = .error e
      else ∃ callCount, issued.callCount ≤ callCount ∧
        (r.afterAll later).command ref = .ok { issued with callCount } := by
  intro issued
  obtain ⟨rfl, hans, hlt⟩ := live_of_addCommand (wellFormed_empty.afterAll before) issue
  have hlive : Live ref issued r := ⟨hlt, issued.callCount, Nat.le_refl _, hans⟩
  refine ⟨hans, ?_⟩
  have hphase := hlive.afterAll later
  cases hf : r.freesAmong ref.list later with
  | true =>
    rw [hf, if_pos rfl] at hphase
    simpa using hphase.command_error
  | false =>
    rw [hf, if_neg Bool.false_ne_true] at hphase
    simpa using hphase.answers

/-- A list with one command, executed, refused its reset as long as the call is
pending, then reset and given another command at the same slot: the first reference
is refused. -/
theorem command_of_issued_reset :
    let command : Command := ⟨.transfer "fill" 8, .borrowed ⟨9⟩, ⟨1⟩, 0, 5, 1000, 0⟩
    let before := [Request.createList ⟨4⟩ ⟨2⟩ ⟨1⟩ false]
    let later := [Request.addCalls ⟨4⟩ ⟨7⟩ ⟨6, 60⟩, .resetList ⟨4⟩, .removePending 0,
      .resetList ⟨4⟩, .addCommand ⟨4⟩ command]
    ∃ ref r, addCommand ⟨4⟩ command (empty.afterAll before) = .ok ref r ∧
      r.command ref = .ok { command with kernelId := 1 } ∧
      ∃ e, (r.afterAll later).command ref = .error e := by
  intro command before later
  have issue : addCommand ⟨4⟩ command (empty.afterAll before) = .ok ⟨⟨4⟩, 0, 0⟩ _ := rfl
  obtain ⟨hans, hlater⟩ := command_of_issued before later ⟨4⟩ command issue
  rw [if_pos (by decide)] at hlater
  exact ⟨_, _, issue, hans, hlater⟩

end GpuTrace.Registry
