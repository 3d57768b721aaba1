import GpuTrace.Proofs.Registry.Calls
import GpuTrace.Proofs.Registry.Growth
import Mathlib.Data.List.Nodup

/-!
# Ids — the three sequences of a list

A list keeps its commands, the kernel ids that they were given, and the call ids of its latest
execution. `CommandList.Bookkept` says that the ids are read off the commands: all kernel ids, and
the call ids of as many commands, from the first on, as were called. On an immediate list every
command was called once.

Over all lists, kernel ids come from one counter: within a list they are in order, two lists share
none, and none has been given that is not below the counter (`Registry.Bookkept`). Appending,
executing and freeing keep this, also if an execution stops halfway.
-/

namespace GpuTrace

/-! ## One list -/

namespace CommandList

variable {info : CommandList} {c : Command} {k : Nat}

structure Bookkept (info : CommandList) : Prop where
  kernels : info.kernelIds = info.commands.toList.map (·.kernelId)
  fits : info.callIds.length ≤ info.commands.size
  calls : info.callIds = (info.commands.toList.take info.callIds.length).map (·.callCount)
  immediate : info.immediate = true → info.callIds.length = info.commands.size ∧
    ∀ id ∈ info.callIds, id = 1

theorem bookkept_blank (context : ContextHandle) (device : DeviceHandle) (immediate : Bool)
    (epoch : Nat) : (blank context device immediate epoch).Bookkept where
  kernels := rfl
  fits := Nat.le_refl _
  calls := rfl
  immediate _ := ⟨rfl, nofun⟩

theorem Bookkept.append (h : info.Bookkept) (deferred : info.immediate = false) (c : Command) :
    (info.append c).Bookkept where
  kernels := by simp [CommandList.append, h.kernels]
  fits := by
    have hfits := h.fits
    simp only [CommandList.append, Array.size_push]
    omega
  calls := by
    have htake : (info.commands.toList ++ [c]).take info.callIds.length =
        info.commands.toList.take info.callIds.length :=
      List.take_append_of_le_length (by simpa using h.fits)
    simp only [CommandList.append, Array.toList_push, htake]
    exact h.calls
  immediate himmediate := by
    have hfalse : (info.append c).immediate = false := deferred
    rw [hfalse] at himmediate
    cases himmediate

theorem Bookkept.append_call (h : info.Bookkept) (immediate : info.immediate = true)
    (c : Command) : ((info.append c).call info.commands.size 1).Bookkept := by
  obtain ⟨hfull, hones⟩ := h.immediate immediate
  have hcommands : ((info.append c).call info.commands.size 1).commands.toList =
      info.commands.toList ++ [{ c with callCount := 1 }] := by
    apply List.ext_getElem
    · simp [CommandList.append, call]
    · intro i hi hi'
      simp only [CommandList.append, call, Array.getElem_toList, Array.getElem_modify,
        Array.getElem_push, List.getElem_append, Array.length_toList]
      by_cases hlt : i < info.commands.size
      · simp [hlt, Nat.ne_of_gt hlt]
      · have heq : info.commands.size = i := by
          simp [CommandList.append, call] at hi
          omega
        simp [heq]
  have hcalls : info.callIds = info.commands.toList.map (·.callCount) := by
    have hcalls := h.calls
    rwa [hfull, List.take_of_length_le (by simp)] at hcalls
  have hids : ((info.append c).call info.commands.size 1).callIds = info.callIds ++ [1] := rfl
  refine ⟨?_, ?_, ?_, fun _ => ⟨?_, ?_⟩⟩
  · rw [hcommands]
    simp [CommandList.append, call, h.kernels]
  · simp [CommandList.append, call, hfull]
  · rw [hids, hcommands, List.take_of_length_le (by simp [hfull]), List.map_append, ← hcalls]
    rfl
  · simp [CommandList.append, call, hfull]
  · rw [hids]
    intro id hid
    rcases List.mem_append.mp hid with hold | hnew
    · exact hones id hold
    · exact List.mem_singleton.mp hnew

theorem length_callIds_called (hk : k ≤ info.commands.size) :
    (info.clear.called k).callIds.length = k := by
  simp [clear, called, Nat.min_eq_left hk]

theorem Bookkept.called (h : info.Bookkept) (deferred : info.immediate = false)
    (hk : k ≤ info.commands.size) : (info.clear.called k).Bookkept where
  kernels := by
    rw [show (info.clear.called k).kernelIds = info.kernelIds from rfl, h.kernels]
    apply List.ext_getElem
    · simp [CommandList.called, clear]
    · intro i _ _
      simp only [CommandList.called, clear, List.getElem_map, Array.getElem_toList,
        Array.getElem_mapIdx]
      split <;> rfl
  fits := by
    rw [length_callIds_called hk]
    simpa [CommandList.called, clear] using hk
  calls := by
    rw [length_callIds_called hk]
    apply List.ext_getElem
    · simp [CommandList.called, clear]
    · intro i hi _
      have hlt : i < k := by
        rwa [length_callIds_called hk] at hi
      simp [CommandList.called, clear, hlt]
  immediate himmediate := by
    have hfalse : (info.clear.called k).immediate = false := deferred
    rw [hfalse] at himmediate
    cases himmediate

end CommandList

/-! ## All lists -/

namespace Registry

variable {P : Change → Prop} {r r' : Registry} {change : Change} {list : CommandListHandle}
  {info info' : CommandList}

def ids (r : Registry) : List Nat :=
  r.lists.values.flatMap (·.kernelIds)

theorem mem_ids {id : Nat} :
    id ∈ r.ids ↔ ∃ list info, r.lists.get? list = some info ∧ id ∈ info.kernelIds := by
  simp only [ids, List.mem_flatMap, Table.values, List.mem_map]
  constructor
  · rintro ⟨-, ⟨⟨list, info⟩, hinfo, rfl⟩, hid⟩
    exact ⟨list, info, Table.mem_entries_iff.mp hinfo, hid⟩
  · rintro ⟨list, info, hinfo, hid⟩
    exact ⟨info, ⟨(list, info), Table.mem_entries_iff.mpr hinfo, rfl⟩, hid⟩

/-- Ids follow the commands in each list, and kernel ids come from one counter. -/
structure Bookkept (r : Registry) : Prop where
  lists : ∀ {list info}, r.lists.get? list = some info → info.Bookkept
  increasing : ∀ {list info}, r.lists.get? list = some info → info.kernelIds.Pairwise (· < ·)
  disjoint : ∀ {list list' info info'}, r.lists.get? list = some info →
    r.lists.get? list' = some info' → list ≠ list' → info.kernelIds.Disjoint info'.kernelIds
  below : ∀ id ∈ r.ids, id < r.nextKernelId

theorem bookkept_empty : empty.Bookkept where
  lists := nofun
  increasing := nofun
  disjoint := nofun
  below := nofun

/-- No kernel id is in two places. -/
theorem Bookkept.nodup_ids (h : r.Bookkept) : r.ids.Nodup := by
  unfold ids Table.values
  rw [List.flatMap_map, List.nodup_flatMap]
  constructor
  · intro entry hentry
    have hincreasing := h.increasing (Table.mem_entries_iff.mp hentry)
    exact hincreasing.imp fun hlt => Nat.ne_of_lt hlt
  · have hkeys := List.pairwise_map.mp r.lists.nodup
    refine hkeys.imp_of_mem fun {entry entry'} hentry hentry' hne => ?_
    exact h.disjoint (Table.mem_entries_iff.mp hentry) (Table.mem_entries_iff.mp hentry') hne

/-- Each list is an old one, or it has nothing. -/
def Retains (r r' : Registry) : Prop :=
  r.nextKernelId ≤ r'.nextKernelId ∧ ∀ list info, r'.lists.get? list = some info →
    r.lists.get? list = some info ∨
      ∃ context device immediate epoch, info = .blank context device immediate epoch

instance : IsPreorder Registry Retains where
  refl r := ⟨Nat.le_refl _, fun _ _ h => .inl h⟩
  trans := by
    rintro r₁ r₂ r₃ ⟨hle, h⟩ ⟨hle', h'⟩
    refine ⟨Nat.le_trans hle hle', fun list info hinfo => ?_⟩
    rcases h' list info hinfo with hold | hblank
    · exact h list info hold
    · exact .inr hblank

theorem retains_of_lists (hle : r.nextKernelId ≤ r'.nextKernelId) (h : r'.lists = r.lists) :
    Retains r r' :=
  ⟨hle, fun _ _ hinfo => .inl (h ▸ hinfo)⟩

theorem Move.retains (hm : Move r change r') (h : change.grows = false) : Retains r r' := by
  cases hm with
  | spendEpoch => exact retains_of_lists (Nat.le_refl _) rfl
  | spendKernelId => exact retains_of_lists (Nat.le_succ _) rfl
  | take => exact retains_of_lists (Nat.le_refl _) rfl
  | caches => exact retains_of_lists (Nat.le_refl _) rfl
  | @create list context device immediate absent =>
    refine ⟨Nat.le_refl _, fun list' info hinfo => ?_⟩
    rw [Table.get?_insert] at hinfo
    split at hinfo
    · cases hinfo
      exact .inr ⟨context, device, immediate, r.nextEpoch, rfl⟩
    · exact .inl hinfo
  | @reset list info found =>
    refine ⟨Nat.le_refl _, fun list' info' hinfo' => ?_⟩
    rw [Table.get?_modify] at hinfo'
    split at hinfo'
    · rename_i heq
      subst heq
      rw [found] at hinfo'
      cases hinfo'
      exact .inr ⟨_, _, _, _, rfl⟩
    · exact .inl hinfo'
  | remove =>
    refine ⟨Nat.le_refl _, fun list' info' hinfo' => ?_⟩
    rw [Table.get?_erase] at hinfo'
    split at hinfo'
    · cases hinfo'
    · exact .inl hinfo'
  | clear => cases h
  | append => cases h
  | call => cases h

theorem Reaches.retains (h : Reaches (·.grows = false) r r') : Retains r r' :=
  h.induct (I := Retains r) (refl_of Retains r) fun _ _ _ hgrows hm hr =>
    trans_of Retains hr (hm.retains hgrows)

theorem Retains.bookkept (h : Retains r r') (hr : r.Bookkept) : r'.Bookkept := by
  obtain ⟨hle, hlists⟩ := h
  refine ⟨?_, ?_, ?_, ?_⟩
  · intro list info hinfo
    rcases hlists list info hinfo with hold | ⟨context, device, immediate, epoch, rfl⟩
    · exact hr.lists hold
    · exact CommandList.bookkept_blank context device immediate epoch
  · intro list info hinfo
    rcases hlists list info hinfo with hold | ⟨context, device, immediate, epoch, rfl⟩
    · exact hr.increasing hold
    · exact .nil
  · intro list list' info info' hinfo hinfo' hne
    rcases hlists list info hinfo with hold | ⟨context, device, immediate, epoch, rfl⟩
    · rcases hlists list' info' hinfo' with hold' | ⟨context, device, immediate, epoch, rfl⟩
      · exact hr.disjoint hold hold' hne
      · exact List.disjoint_nil_right _
    · exact List.disjoint_nil_left _
  · intro id hid
    obtain ⟨list, info, hinfo, hmem⟩ := mem_ids.mp hid
    rcases hlists list info hinfo with hold | ⟨context, device, immediate, epoch, rfl⟩
    · exact Nat.lt_of_lt_of_le (hr.below id (mem_ids.mpr ⟨list, info, hold, hmem⟩)) hle
    · cases hmem

theorem Retains.ids_subset (h : Retains r r') : r'.ids ⊆ r.ids := by
  intro id hid
  obtain ⟨list, info, hinfo, hmem⟩ := mem_ids.mp hid
  rcases h.2 list info hinfo with hold | ⟨context, device, immediate, epoch, rfl⟩
  · exact mem_ids.mpr ⟨list, info, hold, hmem⟩
  · cases hmem

/-! ## Putting a list in the place of another -/

/-- Another list is under a handle in use, with `n` more kernel ids from the counter. -/
structure Puts (list : CommandListHandle) (info info' : CommandList) (n : Nat)
    (r r' : Registry) : Prop where
  found : r.lists.get? list = some info
  lists : r'.lists = (r.put list info').lists
  ids : info'.kernelIds = info.kernelIds ++ List.range' r.nextKernelId n
  next : r'.nextKernelId = r.nextKernelId + n
  immediate : info'.immediate = info.immediate

section Puts

variable {n : Nat} (h : Puts list info info' n r r')

include h

theorem Puts.cases {list' : CommandListHandle} {other : CommandList}
    (hother : r'.lists.get? list' = some other) :
    list' = list ∧ other = info' ∨ list' ≠ list ∧ r.lists.get? list' = some other := by
  rw [h.lists] at hother
  by_cases heq : list' = list
  · subst heq
    rw [get?_put h.found] at hother
    cases hother
    exact .inl ⟨rfl, rfl⟩
  · rw [get?_put_ne heq] at hother
    exact .inr ⟨heq, hother⟩

theorem Puts.mem_ids {id : Nat} (hid : id ∈ r'.ids) :
    id ∈ r.ids ∨ id ∈ List.range' r.nextKernelId n := by
  obtain ⟨list', other, hother, hmem⟩ := Registry.mem_ids.mp hid
  rcases h.cases hother with ⟨rfl, rfl⟩ | ⟨-, hold⟩
  · rw [h.ids] at hmem
    exact (List.mem_append.mp hmem).imp_left fun hmem => Registry.mem_ids.mpr ⟨_, _, h.found, hmem⟩
  · exact .inl (Registry.mem_ids.mpr ⟨list', other, hold, hmem⟩)

/-- New ids are not below the counter, so they are behind all others and in no other list. -/
theorem Puts.bookkept (hr : r.Bookkept) (hinfo' : info'.Bookkept) : r'.Bookkept := by
  have hbelow : ∀ {list' other}, r.lists.get? list' = some other →
      ∀ id ∈ other.kernelIds, id < r.nextKernelId := fun hother id hid =>
    hr.below id (Registry.mem_ids.mpr ⟨_, _, hother, hid⟩)
  have hnew : ∀ id ∈ List.range' r.nextKernelId n, r.nextKernelId ≤ id ∧ id < r'.nextKernelId := by
    intro id hid
    rw [List.mem_range'_1] at hid
    rw [h.next]
    exact hid
  have hdisjoint : ∀ {list' other}, r.lists.get? list' = some other → list' ≠ list →
      info'.kernelIds.Disjoint other.kernelIds := by
    intro list' other hother hne id hid hid'
    rw [h.ids] at hid
    rcases List.mem_append.mp hid with hold | hid
    · exact hr.disjoint h.found hother (Ne.symm hne) hold hid'
    · exact absurd (hbelow hother id hid') (Nat.not_lt.mpr (hnew id hid).1)
  refine ⟨?_, ?_, ?_, ?_⟩
  · intro list' other hother
    rcases h.cases hother with ⟨rfl, rfl⟩ | ⟨-, hold⟩
    · exact hinfo'
    · exact hr.lists hold
  · intro list' other hother
    rcases h.cases hother with ⟨rfl, rfl⟩ | ⟨-, hold⟩
    · rw [h.ids, List.pairwise_append]
      refine ⟨hr.increasing h.found, List.pairwise_lt_range', fun id hid id' hid' => ?_⟩
      exact Nat.lt_of_lt_of_le (hbelow h.found id hid) (hnew id' hid').1
    · exact hr.increasing hold
  · intro list₁ list₂ info₁ info₂ h₁ h₂ hne
    rcases h.cases h₁ with ⟨rfl, rfl⟩ | ⟨hne₁, hold₁⟩
    · rcases h.cases h₂ with ⟨rfl, rfl⟩ | ⟨hne₂, hold₂⟩
      · exact absurd rfl hne
      · exact hdisjoint hold₂ hne₂
    · rcases h.cases h₂ with ⟨rfl, rfl⟩ | ⟨-, hold₂⟩
      · exact List.disjoint_symm (hdisjoint hold₁ hne₁)
      · exact hr.disjoint hold₁ hold₂ hne
  · intro id hid
    rcases h.mem_ids hid with hold | hid
    · exact Nat.lt_of_lt_of_le (hr.below id hold) (h.next ▸ Nat.le_add_right _ _)
    · exact (hnew id hid).2

end Puts

/-! ## Modes -/

def mode (r : Registry) (list : CommandListHandle) : Option Bool :=
  (r.lists.get? list).map (·.immediate)

theorem mode_eq_some_iff {immediate : Bool} : r.mode list = some immediate ↔
    ∃ info, r.lists.get? list = some info ∧ info.immediate = immediate :=
  Option.map_eq_some_iff

theorem isImmediate_eq_ok_iff {immediate : Bool} :
    r.isImmediate list = .ok immediate ↔ r.mode list = some immediate := by
  unfold isImmediate mode Registry.list
  cases r.lists.get? list with
  | none => simp [Functor.map, Except.map]
  | some info => simp [Functor.map, Except.map]

theorem Puts.mode {n : Nat} (h : Puts list info info' n r r') (list' : CommandListHandle) :
    r'.mode list' = r.mode list' := by
  unfold Registry.mode
  rw [h.lists]
  by_cases heq : list' = list
  · subst heq
    rw [get?_put h.found, h.found, Option.map_some, Option.map_some, h.immediate]
  · rw [get?_put_ne heq]

theorem Move.mode_of_tends (hm : Move r change r') (h : change.tends = true) {immediate : Bool}
    (hmode : r'.mode list = some immediate) : r.mode list = some immediate := by
  unfold mode at hmode ⊢
  cases hm with
  | spendEpoch => exact hmode
  | spendKernelId => exact hmode
  | take => exact hmode
  | caches => exact hmode
  | @reset list' info found =>
    rw [Table.get?_modify] at hmode
    split at hmode
    · rename_i heq
      subst heq
      rw [found] at hmode ⊢
      exact hmode
    · exact hmode
  | remove =>
    rw [Table.get?_erase] at hmode
    split at hmode
    · cases hmode
    · exact hmode
  | create => cases h
  | clear => cases h
  | append => cases h
  | call => cases h

/-- A list that is made takes no handle from another. -/
theorem Move.mode_of_made (hm : Move r change r')
    (h : ∃ list context device immediate, change = .create list context device immediate)
    {immediate : Bool} (hmode : r.mode list = some immediate) : r'.mode list = some immediate := by
  obtain ⟨list', context, device, immediate', rfl⟩ := h
  cases hm with
  | create absent =>
    have hne : list ≠ list' := by
      rintro rfl
      rw [mode, absent] at hmode
      cases hmode
    unfold mode
    rw [Table.get?_insert, if_neg hne]
    exact hmode

/-- A list that is registered before and after is in the same mode. -/
theorem Upkeep.mode (h : Upkeep r r') {before after : Bool} (hbefore : r.mode list = some before)
    (hafter : r'.mode list = some after) : after = before := by
  cases h with
  | tended h =>
    have hback : r'.mode list = some after → r.mode list = some after :=
      h.induct (I := fun r' => r'.mode list = some after → r.mode list = some after) id
        fun _ _ _ htends hm hback hmode => hback (hm.mode_of_tends htends hmode)
    exact Option.some.inj ((hback hafter).symm.trans hbefore)
  | made h =>
    have hforth : r'.mode list = some before :=
      h.induct (I := fun r' => r'.mode list = some before) hbefore
        fun _ _ _ hmade hm hmode => hm.mode_of_made hmade hmode
    exact Option.some.inj (hafter.symm.trans hforth)

theorem Upkeep.retains (h : Upkeep r r') : Retains r r' := by
  cases h with
  | tended h => exact (h.imp fun _ htends => Change.grows_of_tends htends).retains
  | made h =>
    refine (h.imp ?_).retains
    rintro _ ⟨list, context, device, immediate, rfl⟩
    rfl

/-! ## Operations -/

theorem puts_calledTo {k : Nat} {queue : QueueHandle} {anchor : SubmitAnchor}
    (found : r.lists.get? list = some info) :
    Puts list info (info.clear.called k) 0 r (r.calledTo list info.clear queue anchor k) :=
  ⟨found, rfl, (List.append_nil _).symm, rfl, rfl⟩

end Registry

end GpuTrace
