import GpuTrace.Proofs.Registry.Move

/-!
# Well-formed registries — every pending call has its command

A pending call refers to a registered list in its current epoch, to a slot that the
list has, and carries a call id that the command has given; no two pending calls
have the same reference and id. Epochs of registered lists differ and were all
drawn from the counter.

Each change keeps this (`WellFormed.move`). In a well-formed registry the look-up of
a pending call by its event always has an answer (`findPending_eq_ok`).
-/

namespace GpuTrace.Registry

open Fallible

/-- Every pending call stands for a live command, and every epoch for one list. -/
structure WellFormed (r : Registry) : Prop where
  resolves : ∀ call ∈ r.pending, ∃ c, r.command call.command = .ok c ∧
    1 ≤ call.callId ∧ call.callId ≤ c.callCount
  distinct : (r.pending.map fun call => (call.command, call.callId)).Nodup
  epoch_lt : ∀ list info, r.lists.get? list = some info → info.epoch < r.nextEpoch
  epoch_inj : ∀ list list' info info', r.lists.get? list = some info →
    r.lists.get? list' = some info' → info.epoch = info'.epoch → list = list'

theorem wellFormed_empty : empty.WellFormed where
  resolves := by simp [empty]
  distinct := by simp [empty]
  epoch_lt := by simp [empty]
  epoch_inj := by simp [empty]

namespace WellFormed

variable {r : Registry}

/-- No pending call refers to a list whose current epoch is not in use: a pending call
never carries an older epoch. -/
theorem not_pending (h : r.WellFormed) {list : CommandListHandle} {info : CommandList}
    (found : r.lists.get? list = some info) (free : r.inUse list info.epoch = false) :
    ∀ call ∈ r.pending, call.command.list ≠ list := by
  intro call hcall hlist
  obtain ⟨c, hc, -⟩ := h.resolves call hcall
  obtain ⟨info', hinfo', hepoch, -⟩ := command_eq_ok_iff.mp hc
  rw [hlist, found] at hinfo'
  cases hinfo'
  exact inUse_eq_false_iff.mp free call hcall hlist hepoch.symm

/-- A registered list is in use exactly if a pending call refers to it: the calls of an earlier
epoch are gone. -/
theorem inUse_iff (h : r.WellFormed) {list : CommandListHandle} {info : CommandList}
    (found : r.lists.get? list = some info) :
    r.inUse list info.epoch = true ↔ ∃ call ∈ r.pending, call.command.list = list := by
  cases hu : r.inUse list info.epoch with
  | true =>
    obtain ⟨call, hcall, hused⟩ := List.any_eq_true.mp hu
    rw [Bool.and_eq_true, beq_iff_eq] at hused
    exact iff_of_true rfl ⟨call, hcall, hused.1⟩
  | false =>
    refine iff_of_false Bool.false_ne_true ?_
    rintro ⟨call, hcall, hlist⟩
    exact h.not_pending found hu call hcall hlist

/-- Epochs stay distinct and below the counter when one list gets the next epoch and
the others keep theirs. -/
theorem epochs_fresh (h : r.WellFormed) (lists : Table CommandListHandle CommandList)
    (list : CommandListHandle)
    (hlists : ∀ l info, lists.get? l = some info →
      l = list ∧ info.epoch = r.nextEpoch ∨ l ≠ list ∧ r.lists.get? l = some info) :
    (∀ l info, lists.get? l = some info → info.epoch < r.nextEpoch + 1) ∧
      ∀ l l' info info', lists.get? l = some info → lists.get? l' = some info' →
        info.epoch = info'.epoch → l = l' := by
  constructor
  · intro l info hl
    rcases hlists l info hl with ⟨-, he⟩ | ⟨-, hold⟩
    · omega
    · have := h.epoch_lt l info hold
      omega
  · intro l l' info info' hl hl' he
    rcases hlists l info hl with ⟨rfl, hn⟩ | ⟨-, hold⟩ <;>
      rcases hlists l' info' hl' with ⟨rfl, hn'⟩ | ⟨-, hold'⟩
    · rfl
    · have := h.epoch_lt l' info' hold'
      omega
    · have := h.epoch_lt l info hold
      omega
    · exact h.epoch_inj l l' info info' hold hold' he

theorem epochs_modify (h : r.WellFormed) (list : CommandListHandle)
    (f : CommandList → CommandList) (hf : ∀ info, (f info).epoch = info.epoch) :
    (∀ l info, (r.lists.modify list f).get? l = some info → info.epoch < r.nextEpoch) ∧
      ∀ l l' info info', (r.lists.modify list f).get? l = some info →
        (r.lists.modify list f).get? l' = some info' → info.epoch = info'.epoch → l = l' := by
  have hold : ∀ l info, (r.lists.modify list f).get? l = some info →
      ∃ old, r.lists.get? l = some old ∧ old.epoch = info.epoch := by
    intro l info hl
    rw [Table.get?_modify] at hl
    split at hl
    · obtain ⟨old, ho, rfl⟩ := Option.map_eq_some_iff.mp hl
      exact ⟨old, ho, (hf old).symm⟩
    · exact ⟨info, hl, rfl⟩
  constructor
  · intro l info hl
    obtain ⟨old, ho, he⟩ := hold l info hl
    rw [← he]
    exact h.epoch_lt l old ho
  · intro l l' info info' hl hl' he
    obtain ⟨old, ho, heo⟩ := hold l info hl
    obtain ⟨old', ho', heo'⟩ := hold l' info' hl'
    exact h.epoch_inj l l' old old' ho ho' (by omega)

theorem settle (h : r.WellFormed) {pending : List Call} (hsub : pending.Sublist r.pending) :
    WellFormed { r with pending } where
  resolves call hcall := h.resolves call (hsub.subset hcall)
  distinct := h.distinct.sublist (hsub.map _)
  epoch_lt := h.epoch_lt
  epoch_inj := h.epoch_inj

/-- Every change keeps a registry well formed. -/
theorem move (h : r.WellFormed) {r' : Registry} {c : Change} (hm : Move r c r') :
    r'.WellFormed := by
  cases hm with
  | spendEpoch =>
    refine ⟨h.resolves, h.distinct, ?_, h.epoch_inj⟩
    intro list info hl
    exact Nat.lt_succ_of_lt (h.epoch_lt list info hl)
  | spendKernelId => exact ⟨h.resolves, h.distinct, h.epoch_lt, h.epoch_inj⟩
  | caches => exact ⟨h.resolves, h.distinct, h.epoch_lt, h.epoch_inj⟩
  | @create list context device immediate absent =>
    obtain ⟨hlt, hinj⟩ := h.epochs_fresh
      (r.lists.insert list (.blank context device immediate r.nextEpoch)) list (by
        intro l info hl
        rw [Table.get?_insert] at hl
        split at hl
        · cases hl
          exact .inl ⟨‹_›, rfl⟩
        · exact .inr ⟨‹_›, hl⟩)
    refine ⟨?_, h.distinct, hlt, hinj⟩
    intro call hcall
    obtain ⟨c, hc, hid⟩ := h.resolves call hcall
    exact ⟨c, (command_of_insert_blank absent rfl).mpr hc, hid⟩
  | @reset list info found free =>
    obtain ⟨hlt, hinj⟩ := h.epochs_fresh
      (r.lists.modify list (CommandList.emptied r.nextEpoch)) list (by
        intro l info hl
        rw [Table.get?_modify] at hl
        split at hl
        · obtain ⟨old, -, rfl⟩ := Option.map_eq_some_iff.mp hl
          exact .inl ⟨‹_›, rfl⟩
        · exact .inr ⟨‹_›, hl⟩)
    refine ⟨?_, h.distinct, hlt, hinj⟩
    intro call hcall
    obtain ⟨c, hc, hid⟩ := h.resolves call hcall
    exact ⟨c, (command_of_emptied rfl).mpr ⟨h.not_pending found free call hcall, hc⟩, hid⟩
  | @remove list info found free =>
    refine ⟨?_, h.distinct, ?_, ?_⟩
    · intro call hcall
      obtain ⟨c, hc, hid⟩ := h.resolves call hcall
      exact ⟨c, (command_of_erase rfl).mpr ⟨h.not_pending found free call hcall, hc⟩, hid⟩
    · intro l info' hl
      rw [Table.get?_erase] at hl
      split at hl
      · cases hl
      · exact Nat.lt_succ_of_lt (h.epoch_lt l info' hl)
    · intro l l' info₁ info₂ hl hl'
      rw [Table.get?_erase] at hl hl'
      split at hl
      · cases hl
      · split at hl'
        · cases hl'
        · exact h.epoch_inj l l' info₁ info₂ hl hl'
  | @clear list =>
    obtain ⟨hlt, hinj⟩ := h.epochs_modify list CommandList.clear fun _ => rfl
    refine ⟨?_, h.distinct, hlt, hinj⟩
    intro call hcall
    obtain ⟨c, hc, hid⟩ := h.resolves call hcall
    exact ⟨c, (command_of_clear rfl).mpr hc, hid⟩
  | append found =>
    obtain ⟨hlt, hinj⟩ := h.epochs_modify _ (CommandList.append _) fun _ => rfl
    refine ⟨?_, h.distinct, hlt, hinj⟩
    intro call hcall
    obtain ⟨c, hc, hid⟩ := h.resolves call hcall
    exact ⟨c, (command_of_append found rfl).mpr (.inl hc), hid⟩
  | @call call command found =>
    obtain ⟨hlt, hinj⟩ := h.epochs_modify _ (CommandList.call _ _) fun _ => rfl
    refine ⟨?_, ?_, hlt, hinj⟩
    · intro old hold
      rcases List.mem_append.mp hold with hold | hnew
      · obtain ⟨c, hc, hlo, hhi⟩ := h.resolves old hold
        by_cases href : old.command = call.command
        · rw [href, found] at hc
          cases hc
          exact ⟨_, (command_of_call found rfl).mpr (.inl ⟨href, rfl⟩), hlo, Nat.le_succ_of_le hhi⟩
        · exact ⟨c, (command_of_call found rfl).mpr (.inr ⟨href, hc⟩), hlo, hhi⟩
      · cases List.mem_singleton.mp hnew
        exact ⟨_, (command_of_call found rfl).mpr (.inl ⟨rfl, rfl⟩), Nat.le_add_left ..,
          Nat.le_refl _⟩
    · rw [List.map_append, List.nodup_append]
      refine ⟨h.distinct, by simp, ?_⟩
      intro p hp q hq
      obtain ⟨old, hold, rfl⟩ := List.mem_map.mp hp
      cases List.mem_singleton.mp hq
      intro heq
      obtain ⟨href, hid⟩ := Prod.mk.inj heq
      obtain ⟨c, hc, -, hhi⟩ := h.resolves old hold
      rw [href, found] at hc
      cases hc
      have hnew : old.callId = command.callCount + 1 := hid
      omega
  | take found => exact h.settle (List.eraseIdx_sublist ..)

theorem reaches {P : Change → Prop} {r' : Registry} (h : r.WellFormed) (hr : Reaches P r r') :
    r'.WellFormed :=
  hr.induct h fun _ _ _ _ hm hi => hi.move hm

/-! ## Looking up pending calls -/

theorem findFrom_eq_ok (h : r.WellFormed) (event : EventHandle) :
    ∀ (calls : List Call) (position : Nat), (∀ call ∈ calls, call ∈ r.pending) →
      ∃ found, r.findFrom event calls position = .ok found
  | [], _, _ => ⟨none, rfl⟩
  | call :: rest, position, hcalls => by
    obtain ⟨c, hc, -⟩ := h.resolves call (hcalls call List.mem_cons_self)
    obtain ⟨found, hf⟩ := h.findFrom_eq_ok event rest (position + 1)
      fun call' h' => hcalls call' (List.mem_cons_of_mem _ h')
    by_cases he : c.event = event
    · exact ⟨some position, by simp [findFrom, hc, he]⟩
    · exact ⟨found, by simp [findFrom, hc, he, hf]⟩

theorem findPending_eq_ok (h : r.WellFormed) (event : EventHandle) :
    ∃ found, r.findPending event = .ok found :=
  h.findFrom_eq_ok event r.pending 0 fun _ hc => hc

end WellFormed

end GpuTrace.Registry
