import GpuTrace.Proofs.Profile.Finish
import GpuTrace.Proofs.Registry.Reference
import Mathlib.Data.List.Forall2
import Mathlib.Data.List.Nodup

/-!
# Accounts — notices given and calls pending add up to the calls made

`ids` are the notices given so far, by id and in order. Of every command they carry the
calls `1, ..., m` in this order; while the command is registered its pending calls are
`m + 1, ..., callCount`, in this order too. `Accounts` is this together with what makes
kernel ids tell commands apart.

Changes of the registry keep the accounts (`Accounts.move`), and so does settling calls,
which moves them from the pending ones to the notices (`Accounts.settle`). The account of
a command whose list is freed is closed (`Accounts.closed`): all its calls were noticed,
and no notice is about it again (`Closed.move`, `Closed.settle`).
-/

namespace GpuTrace.Registry

/-- Of the command with this kernel id, the notices are about the calls `1, ..., m`, in
this order. -/
def Delivered (ids : List String) (kernelId m : Nat) : Prop :=
  ids.filter (carries kernelId) = (List.range' 1 m).map (callText kernelId)

def pendingOf (r : Registry) (ref : CommandRef) : List Call :=
  r.pending.filter (·.command = ref)

/-- Notices given and calls pending add up to the calls made, command by command. -/
structure Accounts (r : Registry) (ids : List String) : Prop where
  wellFormed : r.WellFormed
  kernel_lt : ∀ ref c, r.command ref = .ok c → c.kernelId < r.nextKernelId
  kernel_inj : ∀ ref ref' c c', r.command ref = .ok c → r.command ref' = .ok c' →
    c.kernelId = c'.kernelId → ref = ref'
  /-- Every notice is about a call of a command that was registered. -/
  known : ∀ id ∈ ids, ∃ kernelId callId, kernelId < r.nextKernelId ∧ id = callText kernelId callId
  /-- The notices about each kernel id ever given are in order, from one on. -/
  ordered : ∀ kernelId, ∃ m, Delivered ids kernelId m
  balanced : ∀ ref c, r.command ref = .ok c → ∃ m, m ≤ c.callCount ∧
    Delivered ids c.kernelId m ∧
    (r.pendingOf ref).map (·.callId) = List.range' (m + 1) (c.callCount - m)

/-- The account of a command that was freed: it ended with `n` calls, all noticed. -/
structure Closed (ref : CommandRef) (kernelId n : Nat) (r : Registry) (ids : List String) :
    Prop where
  delivered : Delivered ids kernelId n
  given : kernelId < r.nextKernelId
  gone : ∀ ref c, r.command ref = .ok c → c.kernelId ≠ kernelId
  spent : Spent ref r

theorem Closed.pendingOf_eq_nil {ref : CommandRef} {kernelId n : Nat} {r : Registry}
    {ids : List String} (h : Closed ref kernelId n r ids) (hwf : r.WellFormed) :
    r.pendingOf ref = [] := by
  unfold pendingOf
  rw [List.filter_eq_nil_iff]
  intro call hcall href
  obtain ⟨c, hc, -⟩ := hwf.resolves call hcall
  obtain ⟨e, he⟩ := h.spent.command_error
  rw [of_decide_eq_true href, he] at hc
  cases hc

theorem accounts_empty : empty.Accounts [] where
  wellFormed := wellFormed_empty
  kernel_lt := by simp [command_eq_ok_iff, empty]
  kernel_inj := by simp [command_eq_ok_iff, empty]
  known := by simp
  ordered := fun kernelId => ⟨0, rfl⟩
  balanced := by simp [command_eq_ok_iff, empty]

/-! ## Changes of the registry -/

section Changes

variable {r r' : Registry} {ids : List String} {change : Change}

/-- The accounts stay right when commands only go and nothing else is noticed. -/
theorem Accounts.restrict (h : r.Accounts ids) (hwf : r'.WellFormed)
    (hpending : r'.pending = r.pending) (hnext : r.nextKernelId ≤ r'.nextKernelId)
    (hcommand : ∀ ref c, r'.command ref = .ok c → r.command ref = .ok c) :
    r'.Accounts ids where
  wellFormed := hwf
  kernel_lt ref c hc := Nat.lt_of_lt_of_le (h.kernel_lt ref c (hcommand ref c hc)) hnext
  kernel_inj ref ref' c c' hc hc' :=
    h.kernel_inj ref ref' c c' (hcommand ref c hc) (hcommand ref' c' hc')
  known id hid := by
    obtain ⟨kernelId, callId, hlt, rfl⟩ := h.known id hid
    exact ⟨kernelId, callId, Nat.lt_of_lt_of_le hlt hnext, rfl⟩
  ordered := h.ordered
  balanced ref c hc := by
    have hpendingOf : r'.pendingOf ref = r.pendingOf ref := by
      unfold pendingOf
      rw [hpending]
    rw [hpendingOf]
    exact h.balanced ref c (hcommand ref c hc)

/-- A kernel id that was not given yet is in no notice. -/
theorem Accounts.delivered_next (h : r.Accounts ids) : Delivered ids r.nextKernelId 0 := by
  unfold Delivered
  rw [List.range'_zero, List.map_nil, List.filter_eq_nil_iff]
  intro id hid
  obtain ⟨kernelId, callId, hlt, rfl⟩ := h.known id hid
  simp only [carries_callText, decide_eq_true_eq]
  omega

theorem Accounts.append (h : r.Accounts ids) {list : CommandListHandle} {command : Command}
    (hm : Move r (.append list command) r') (hnew : command.callCount = 0) : r'.Accounts ids := by
  have hwf := h.wellFormed.move hm
  cases hm with
  | @append _ info _ found =>
    -- a command is an old one, or the new one with the next kernel id
    have hcases : ∀ ref c, Registry.command { r with
        lists := r.lists.modify list
          (CommandList.append { command with kernelId := r.nextKernelId })
        nextKernelId := r.nextKernelId + 1 } ref = .ok c →
        r.command ref = .ok c ∨ ref = ⟨list, info.epoch, info.commands.size⟩ ∧
          c = { command with kernelId := r.nextKernelId } := by
      intro ref c hc
      exact (command_of_append found rfl).mp hc
    refine ⟨hwf, ?_, ?_, ?_, h.ordered, ?_⟩
    · intro ref c hc
      rcases hcases ref c hc with hold | ⟨-, rfl⟩
      · exact Nat.lt_succ_of_lt (h.kernel_lt ref c hold)
      · exact Nat.lt_succ_self _
    · intro ref ref' c c' hc hc' heq
      rcases hcases ref c hc with hold | ⟨rfl, rfl⟩ <;>
        rcases hcases ref' c' hc' with hold' | ⟨rfl, rfl⟩
      · exact h.kernel_inj ref ref' c c' hold hold' heq
      · exact absurd heq (Nat.ne_of_lt (h.kernel_lt ref c hold))
      · exact absurd heq (Nat.ne_of_gt (h.kernel_lt ref' c' hold'))
      · rfl
    · intro id hid
      obtain ⟨kernelId, callId, hlt, rfl⟩ := h.known id hid
      exact ⟨kernelId, callId, Nat.lt_succ_of_lt hlt, rfl⟩
    · intro ref c hc
      rcases hcases ref c hc with hold | ⟨rfl, rfl⟩
      · exact h.balanced ref c hold
      · refine ⟨0, Nat.zero_le _, h.delivered_next, ?_⟩
        -- no call was pending for the new slot: it would refer to a command
        have hnone : r.pending.filter
            (·.command = ⟨list, info.epoch, info.commands.size⟩) = [] := by
          rw [List.filter_eq_nil_iff]
          intro call hcall href
          obtain ⟨c, hc, -⟩ := h.wellFormed.resolves call hcall
          obtain ⟨info', hinfo', -, hslot⟩ := command_eq_ok_iff.mp hc
          rw [of_decide_eq_true href] at hinfo' hslot
          rw [found] at hinfo'
          cases hinfo'
          simp at hslot
        show List.map _ (r.pending.filter _) = _
        rw [hnone, hnew]
        rfl

theorem Accounts.call (h : r.Accounts ids) {call : Call} (hm : Move r (.call call) r') :
    r'.Accounts ids := by
  have hwf := h.wellFormed.move hm
  cases hm with
  | @call _ command found =>
    -- the called command gains a call, the others are as before
    have hcases : ∀ ref c, Registry.command { r with
        lists := r.lists.modify call.command.list
          (CommandList.call call.command.slot (command.callCount + 1))
        pending := r.pending ++ [{ call with callId := command.callCount + 1 }] } ref = .ok c →
        ref = call.command ∧ c = { command with callCount := command.callCount + 1 } ∨
          ref ≠ call.command ∧ r.command ref = .ok c := by
      intro ref c hc
      exact (command_of_call found rfl).mp hc
    have hold : ∀ ref c, Registry.command { r with
        lists := r.lists.modify call.command.list
          (CommandList.call call.command.slot (command.callCount + 1))
        pending := r.pending ++ [{ call with callId := command.callCount + 1 }] } ref = .ok c →
        ∃ c₀, r.command ref = .ok c₀ ∧ c₀.kernelId = c.kernelId := by
      intro ref c hc
      rcases hcases ref c hc with ⟨rfl, rfl⟩ | ⟨-, hc⟩
      · exact ⟨command, found, rfl⟩
      · exact ⟨c, hc, rfl⟩
    refine ⟨hwf, ?_, ?_, h.known, h.ordered, ?_⟩
    · intro ref c hc
      obtain ⟨c₀, hc₀, heq⟩ := hold ref c hc
      rw [← heq]
      exact h.kernel_lt ref c₀ hc₀
    · intro ref ref' c c' hc hc' heq
      obtain ⟨c₀, hc₀, he⟩ := hold ref c hc
      obtain ⟨c₀', hc₀', he'⟩ := hold ref' c' hc'
      exact h.kernel_inj ref ref' c₀ c₀' hc₀ hc₀' (by rw [he, he', heq])
    · intro ref c hc
      rcases hcases ref c hc with ⟨rfl, rfl⟩ | ⟨hne, hc⟩
      · obtain ⟨m, hm, hdelivered, hpending⟩ := h.balanced _ command found
        refine ⟨m, Nat.le_succ_of_le hm, hdelivered, ?_⟩
        unfold pendingOf at hpending ⊢
        rw [List.filter_append, List.map_append, hpending, Nat.succ_sub hm, List.range'_1_concat]
        simp [Nat.add_right_comm, Nat.add_sub_cancel' hm]
      · obtain ⟨m, hm, hdelivered, hpending⟩ := h.balanced ref c hc
        refine ⟨m, hm, hdelivered, ?_⟩
        unfold pendingOf at hpending ⊢
        rw [List.filter_append, List.map_append, hpending]
        simp [Ne.symm hne]

/-- Every change but taking a call out keeps the accounts right, as long as a new
command has no calls. -/
theorem Accounts.move (h : r.Accounts ids) (hm : Move r change r')
    (htake : ∀ index, change ≠ .take index)
    (hnew : ∀ list command, change = .append list command → command.callCount = 0) :
    r'.Accounts ids := by
  have hwf := h.wellFormed.move hm
  cases change with
  | append list command => exact h.append hm (hnew list command rfl)
  | call call => exact h.call hm
  | take index => exact absurd rfl (htake index)
  | spendEpoch =>
    cases hm
    exact h.restrict hwf rfl (Nat.le_refl _) fun _ _ hc => hc
  | spendKernelId =>
    cases hm
    exact h.restrict hwf rfl (Nat.le_succ _) fun _ _ hc => hc
  | caches groupSizes imageSizes =>
    cases hm
    exact h.restrict hwf rfl (Nat.le_refl _) fun _ _ hc => hc
  | create list context device immediate =>
    cases hm with
    | create absent =>
      exact h.restrict hwf rfl (Nat.le_refl _) fun _ _ hc =>
        (command_of_insert_blank absent rfl).mp hc
  | reset list =>
    cases hm
    exact h.restrict hwf rfl (Nat.le_refl _) fun _ _ hc => ((command_of_emptied rfl).mp hc).2
  | remove list =>
    cases hm
    exact h.restrict hwf rfl (Nat.le_refl _) fun _ _ hc => ((command_of_erase rfl).mp hc).2
  | clear list =>
    cases hm
    exact h.restrict hwf rfl (Nat.le_refl _) fun _ _ hc => (command_of_clear rfl).mp hc

/-- Freeing the commands of a list closes their accounts: all calls were noticed. -/
theorem Accounts.closed (h : r.Accounts ids) {list : CommandListHandle} (hm : Move r change r')
    (hfrees : change.frees? = some list) {ref : CommandRef} {c : Command}
    (hc : r.command ref = .ok c) (hlist : ref.list = list) :
    Closed ref c.kernelId c.callCount r' ids := by
  subst hlist
  have hlive : Live ref c r := by
    obtain ⟨info, hinfo, hepoch, -⟩ := command_eq_ok_iff.mp hc
    exact ⟨hepoch ▸ h.wellFormed.epoch_lt _ info hinfo, c.callCount, Nat.le_refl _, hc⟩
  -- what is freed was not in use, and what stays is another command
  have hfreed : (∃ info, r.lists.get? ref.list = some info ∧ r.inUse ref.list info.epoch = false) ∧
      r'.nextKernelId = r.nextKernelId ∧
      ∀ ref' c', r'.command ref' = .ok c' → ref'.list ≠ ref.list ∧ r.command ref' = .ok c' := by
    cases hm with
    | @reset list info found free =>
      cases Option.some.inj hfrees
      exact ⟨⟨info, found, free⟩, rfl, fun _ _ hc' => (command_of_emptied rfl).mp hc'⟩
    | @remove list info found free =>
      cases Option.some.inj hfrees
      exact ⟨⟨info, found, free⟩, rfl, fun _ _ hc' => (command_of_erase rfl).mp hc'⟩
    | _ => cases hfrees
  obtain ⟨⟨info, found, free⟩, hnext, hstay⟩ := hfreed
  obtain ⟨m, hm', hdelivered, hpending⟩ := h.balanced ref c hc
  have hnone : r.pendingOf ref = [] := by
    unfold pendingOf
    rw [List.filter_eq_nil_iff]
    intro call hcall href
    exact h.wellFormed.not_pending found free call hcall
      (congrArg CommandRef.list (of_decide_eq_true href))
  have hall : m = c.callCount := by
    rw [hnone, List.map_nil] at hpending
    have := congrArg List.length hpending
    rw [List.length_nil, List.length_range'] at this
    omega
  refine ⟨hall ▸ hdelivered, by rw [hnext]; exact h.kernel_lt ref c hc, ?_, hlive.spent hm hfrees⟩
  intro ref' c' hc' heq
  obtain ⟨hne, hold⟩ := hstay ref' c' hc'
  exact hne (congrArg CommandRef.list (h.kernel_inj ref' ref c' c hold hc heq))

theorem Closed.move {ref : CommandRef} {kernelId n : Nat} (h : Closed ref kernelId n r ids)
    (hm : Move r change r') : Closed ref kernelId n r' ids := by
  obtain ⟨hdelivered, hgiven, hgone, hspent⟩ := h
  have hspent' := hspent.move hm
  cases hm with
  | spendEpoch => exact ⟨hdelivered, hgiven, hgone, hspent'⟩
  | spendKernelId => exact ⟨hdelivered, Nat.lt_succ_of_lt hgiven, hgone, hspent'⟩
  | take found => exact ⟨hdelivered, hgiven, hgone, hspent'⟩
  | caches => exact ⟨hdelivered, hgiven, hgone, hspent'⟩
  | create absent =>
    exact ⟨hdelivered, hgiven,
      fun ref c hc => hgone ref c ((command_of_insert_blank absent rfl).mp hc), hspent'⟩
  | reset found free =>
    exact ⟨hdelivered, hgiven, fun ref c hc => hgone ref c ((command_of_emptied rfl).mp hc).2,
      hspent'⟩
  | remove found free =>
    exact ⟨hdelivered, hgiven, fun ref c hc => hgone ref c ((command_of_erase rfl).mp hc).2,
      hspent'⟩
  | clear =>
    exact ⟨hdelivered, hgiven, fun ref c hc => hgone ref c ((command_of_clear rfl).mp hc), hspent'⟩
  | append found =>
    refine ⟨hdelivered, Nat.lt_succ_of_lt hgiven, ?_, hspent'⟩
    intro ref c hc
    rcases (command_of_append found rfl).mp hc with hold | ⟨-, rfl⟩
    · exact hgone ref c hold
    · exact Nat.ne_of_gt hgiven
  | @call call command found =>
    refine ⟨hdelivered, hgiven, ?_, hspent'⟩
    intro ref c hc
    rcases (command_of_call found rfl).mp hc with ⟨-, rfl⟩ | ⟨-, hold⟩
    · exact hgone call.command command found
    · exact hgone ref c hold

/-- Changes under which every account goes on: nothing is freed or taken out, and a new
command has no calls. -/
def Change.GoesOn : Change → Prop
  | .append _ command => command.callCount = 0
  | change => change.isPlain = true

theorem Change.goesOn_of_plain (h : change.isPlain = true) : change.GoesOn := by
  cases change <;> first | exact h | cases h

theorem Change.GoesOn.frees_nothing (h : change.GoesOn) : change.frees? = none := by
  cases change <;> first | rfl | cases h

theorem Accounts.goesOn (h : r.Accounts ids) (hm : Move r change r') (hc : change.GoesOn) :
    r'.Accounts ids := by
  refine h.move hm ?_ ?_
  · rintro index rfl
    cases hc
  · rintro list command rfl
    exact hc

end Changes

/-! ## Settling calls -/

section Settling

variable {r : Registry} {ids news : List String} {calls pending : List Call}

def Notices (r : Registry) (calls : List Call) (news : List String) : Prop :=
  List.Forall₂ (fun call id => ∃ c, r.command call.command = .ok c ∧
    id = callText c.kernelId call.callId) calls news

theorem Notices.mem (h : Notices r calls news) :
    ∀ id ∈ news, ∃ ref c callId, r.command ref = .ok c ∧ id = callText c.kernelId callId := by
  induction h with
  | nil => simp
  | @cons call id _ _ hhead _ ih =>
    intro id' hid'
    rcases List.mem_cons.mp hid' with rfl | hid'
    · obtain ⟨c, hc, rfl⟩ := hhead
      exact ⟨call.command, c, call.callId, hc, rfl⟩
    · exact ih id' hid'

theorem Notices.filter (h : Notices r calls news) (hr : r.Accounts ids) {ref : CommandRef}
    {c : Command} (hc : r.command ref = .ok c) :
    news.filter (carries c.kernelId) =
      ((calls.filter (·.command = ref)).map (·.callId)).map (callText c.kernelId) := by
  induction h with
  | nil => rfl
  | @cons call id calls news hhead _ ih =>
    obtain ⟨c', hc', rfl⟩ := hhead
    by_cases href : call.command = ref
    · rw [href, hc] at hc'
      cases hc'
      simp [href, ih]
    · have hne : c.kernelId ≠ c'.kernelId := fun heq =>
        href (hr.kernel_inj ref call.command c c' hc hc' heq).symm
      simp [href, hne, ih]

theorem Delivered.append_of_gone {kernelId m : Nat} (h : Delivered ids kernelId m)
    (hnews : Notices r calls news)
    (hgone : ∀ ref c, r.command ref = .ok c → c.kernelId ≠ kernelId) :
    Delivered (ids ++ news) kernelId m := by
  have hnone : news.filter (carries kernelId) = [] := by
    rw [List.filter_eq_nil_iff]
    intro id hid
    obtain ⟨ref, c, callId, hc, rfl⟩ := hnews.mem id hid
    simpa using Ne.symm (hgone ref c hc)
  unfold Delivered at h ⊢
  rw [List.filter_append, hnone, List.append_nil, h]

theorem Closed.settle {ref : CommandRef} {kernelId n : Nat} (h : Closed ref kernelId n r ids)
    (hnews : Notices r calls news) : Closed ref kernelId n { r with pending } (ids ++ news) :=
  ⟨h.delivered.append_of_gone hnews h.gone, h.given, h.gone, h.spent.epoch_lt, h.spent.epoch_ne⟩

/-- Calls that are settled go from the pending ones to the notices; of each command the
first ones go. -/
theorem Accounts.settle (h : r.Accounts ids) (hsub : pending.Sublist r.pending)
    (hsplit : ∀ ref, calls.filter (·.command = ref) ++ pending.filter (·.command = ref) =
      r.pendingOf ref) (hnews : Notices r calls news) :
    Accounts { r with pending } (ids ++ news) := by
  have hbalanced : ∀ ref c, r.command ref = .ok c → ∃ m, m ≤ c.callCount ∧
      Delivered (ids ++ news) c.kernelId m ∧
      (pending.filter (·.command = ref)).map (·.callId) =
        List.range' (m + 1) (c.callCount - m) := by
    intro ref c hc
    obtain ⟨m, hm, hdelivered, hpending⟩ := h.balanced ref c hc
    -- the calls that went are the first of those that were pending
    rw [← hsplit ref, List.map_append] at hpending
    obtain ⟨j, hj, hwent, hstay⟩ := List.range'_eq_append_iff.mp hpending.symm
    refine ⟨m + j, by omega, ?_, ?_⟩
    · unfold Delivered at hdelivered ⊢
      rw [List.filter_append, hdelivered, hnews.filter h hc, hwent, ← List.map_append,
        Nat.add_comm m 1, List.range'_append_1]
    · rw [hstay]
      congr 1 <;> omega
  refine ⟨h.wellFormed.settle hsub, h.kernel_lt, h.kernel_inj, ?_, ?_, hbalanced⟩
  · intro id hid
    rcases List.mem_append.mp hid with hold | hnew
    · exact h.known id hold
    · obtain ⟨ref, c, callId, hc, rfl⟩ := hnews.mem id hnew
      exact ⟨c.kernelId, callId, h.kernel_lt ref c hc, rfl⟩
  · intro kernelId
    by_cases hk : ∃ ref c, r.command ref = .ok c ∧ c.kernelId = kernelId
    · obtain ⟨ref, c, hc, rfl⟩ := hk
      obtain ⟨m, -, hdelivered, -⟩ := hbalanced ref c hc
      exact ⟨m, hdelivered⟩
    · obtain ⟨m, hm⟩ := h.ordered kernelId
      exact ⟨m, hm.append_of_gone hnews fun ref c hc heq => hk ⟨ref, c, hc, heq⟩⟩

/-- No two notices have the same id. -/
theorem Accounts.nodup (h : r.Accounts ids) : ids.Nodup := by
  rw [List.nodup_iff_count_le_one]
  intro id
  by_cases hid : id ∈ ids
  · obtain ⟨kernelId, callId, -, rfl⟩ := h.known id hid
    obtain ⟨m, hm⟩ := h.ordered kernelId
    -- the id stands among the notices that carry its kernel id, and those are distinct
    have hcount : (ids.filter (carries kernelId)).count (callText kernelId callId) =
        ids.count (callText kernelId callId) := List.count_filter (by simp)
    have hnodup : (ids.filter (carries kernelId)).Nodup := by
      rw [show ids.filter (carries kernelId) = _ from hm]
      exact List.Nodup.map (callText_injective kernelId) (List.nodup_range' ..)
    rw [← hcount]
    exact List.nodup_iff_count_le_one.mp hnodup _
  · rw [List.count_eq_zero_of_not_mem hid]
    exact Nat.zero_le 1

end Settling

end GpuTrace.Registry
