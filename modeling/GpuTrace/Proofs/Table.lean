import GpuTrace.Table

/-!
# Tables as collections

What inserting, changing and erasing do to the keys and, up to their order, to the
values of a table.
-/

namespace GpuTrace.Table

variable {κ α : Type} [DecidableEq κ] {t : Table κ α} {k : κ} {a : α}

theorem eraseIn_of_not_mem {es : List (κ × α)} (h : k ∉ es.map Prod.fst) : eraseIn k es = es := by
  induction es with
  | nil => rfl
  | cons e es ih =>
    rw [List.map_cons, List.mem_cons, not_or] at h
    rw [eraseIn, if_neg (Ne.symm h.1), ih h.2]

theorem modifyIn_of_not_mem {es : List (κ × α)} (f : α → α) (h : k ∉ es.map Prod.fst) :
    modifyIn k f es = es := by
  induction es with
  | nil => rfl
  | cons e es ih =>
    rw [List.map_cons, List.mem_cons, not_or] at h
    rw [modifyIn, if_neg (Ne.symm h.1), ih h.2]

theorem not_mem_keys (h : t.get? k = none) : k ∉ t.entries.map Prod.fst :=
  find_eq_none_iff.mp h

@[simp] theorem get?_insert_self (t : Table κ α) (k : κ) (a : α) :
    (t.insert k a).get? k = some a := by
  rw [get?_insert, if_pos rfl]

@[simp] theorem contains_insert_self (t : Table κ α) (k : κ) (a : α) :
    (t.insert k a).contains k = true := by
  simp [contains_insert]

theorem mem_entries_iff : (k, a) ∈ t.entries ↔ t.get? k = some a := by
  have hfind : ∀ es : List (κ × α), (es.map Prod.fst).Nodup →
      ((k, a) ∈ es ↔ find k es = some a) := by
    intro es hes
    induction es with
    | nil => simp [find]
    | cons e es ih =>
      obtain ⟨j, b⟩ := e
      rw [List.map_cons, List.nodup_cons] at hes
      by_cases hj : j = k
      · subst hj
        have hnot : (j, a) ∉ es := fun hmem => hes.1 (List.mem_map.mpr ⟨_, hmem, rfl⟩)
        simp [find, hnot, eq_comm]
      · simp [find, hj, Ne.symm hj, ih hes.2]
  exact hfind t.entries t.nodup

theorem get?_of_erase {j : κ} (h : (t.erase k).get? j = some a) : t.get? j = some a := by
  rw [get?_erase] at h
  split at h
  · cases h
  · exact h

theorem get?_foldl_erase {j : κ} (keys : List κ) :
    (keys.foldl erase t).get? j = if j ∈ keys then none else t.get? j := by
  induction keys generalizing t with
  | nil => simp
  | cons k keys ih =>
    rw [List.foldl_cons, ih, get?_erase]
    by_cases hj : j = k
    · simp [hj]
    · simp [hj]

theorem erase_of_absent (h : t.get? k = none) : t.erase k = t :=
  ext (eraseIn_of_not_mem (not_mem_keys h))

theorem modify_of_absent (f : α → α) (h : t.get? k = none) : t.modify k f = t :=
  ext (modifyIn_of_not_mem f (not_mem_keys h))

theorem modify_congr {f g : α → α} (h : ∀ a, t.get? k = some a → f a = g a) :
    t.modify k f = t.modify k g := by
  have hmodify : ∀ es : List (κ × α), (∀ a, find k es = some a → f a = g a) →
      modifyIn k f es = modifyIn k g es := by
    intro es hes
    induction es with
    | nil => rfl
    | cons e es ih =>
      by_cases hk : e.1 = k
      · have hsame : f e.2 = g e.2 := hes e.2 (if_pos hk)
        rw [modifyIn, modifyIn, if_pos hk, if_pos hk, hsame]
      · have hrest : find k (e :: es) = find k es := if_neg hk
        rw [modifyIn, modifyIn, if_neg hk, if_neg hk, ih fun a ha => hes a (hrest.trans ha)]
  exact ext (hmodify t.entries h)

theorem modify_self (h : t.get? k = some a) : (t.modify k fun _ => a) = t := by
  have hid : t.modify k (fun b => b) = t := by
    have hmodify : ∀ es : List (κ × α), modifyIn k (fun b => b) es = es := by
      intro es
      induction es with
      | nil => rfl
      | cons e es ih =>
        unfold modifyIn
        rw [ih, ite_self]
    exact ext (hmodify t.entries)
  have hsame : (t.modify k fun _ => a) = t.modify k fun b => b := by
    refine modify_congr fun b hb => ?_
    exact Option.some.inj (h.symm.trans hb)
  exact hsame.trans hid

theorem entries_insert_of_absent (a : α) (h : t.get? k = none) :
    (t.insert k a).entries = t.entries ++ [(k, a)] := by
  unfold insert
  rw [dif_neg (by simp [contains, h])]

theorem keys_insert_of_absent (a : α) (h : t.get? k = none) :
    (t.insert k a).keys = t.keys ++ [k] := by
  unfold keys
  rw [entries_insert_of_absent a h, List.map_append]
  rfl

theorem get?_foldl_insert_of_not_mem {ks : List κ} (a : α) (h : k ∉ ks) :
    (ks.foldl (fun t k => t.insert k a) t).get? k = t.get? k := by
  induction ks generalizing t with
  | nil => rfl
  | cons k' ks ih =>
    rw [List.mem_cons, not_or] at h
    rw [List.foldl_cons, ih h.2, get?_insert, if_neg h.1]

theorem entries_foldl_insert {ks : List κ} (a : α) (hnodup : ks.Nodup)
    (habsent : ∀ k ∈ ks, t.get? k = none) :
    (ks.foldl (fun t k => t.insert k a) t).entries = t.entries ++ ks.map fun k => (k, a) := by
  induction ks generalizing t with
  | nil => exact (List.append_nil _).symm
  | cons k ks ih =>
    rw [List.nodup_cons] at hnodup
    have hrest : ∀ k' ∈ ks, (t.insert k a).get? k' = none := by
      intro k' hk'
      have hne : k' ≠ k := fun heq => hnodup.1 (heq ▸ hk')
      rw [get?_insert, if_neg hne]
      exact habsent k' (List.mem_cons_of_mem _ hk')
    rw [List.foldl_cons, ih hnodup.2 hrest,
      entries_insert_of_absent a (habsent k List.mem_cons_self), List.append_assoc]
    rfl

theorem erase_insert_of_absent (a : α) (h : t.get? k = none) : (t.insert k a).erase k = t := by
  have herase : ∀ es : List (κ × α), k ∉ es.map Prod.fst → eraseIn k (es ++ [(k, a)]) = es := by
    intro es hes
    induction es with
    | nil => simp [eraseIn]
    | cons e es ih =>
      rw [List.map_cons, List.mem_cons, not_or] at hes
      rw [List.cons_append, eraseIn, if_neg (Ne.symm hes.1), ih hes.2]
  apply ext
  show eraseIn k (t.insert k a).entries = t.entries
  rw [entries_insert_of_absent a h]
  exact herase _ (not_mem_keys h)

theorem keys_erase : (t.erase k).keys = t.keys.erase k := by
  have herase : ∀ es : List (κ × α), (eraseIn k es).map Prod.fst = (es.map Prod.fst).erase k := by
    intro es
    induction es with
    | nil => rfl
    | cons e es ih =>
      by_cases h : e.1 = k
      · simp [eraseIn, h]
      · simp [eraseIn, h, ih]
  exact herase t.entries

/-- The entry of a key is one of the entries, and erasing takes just that one. -/
theorem entries_perm (h : t.get? k = some a) : t.entries.Perm ((k, a) :: (t.erase k).entries) := by
  have hperm : ∀ es : List (κ × α), find k es = some a → es.Perm ((k, a) :: eraseIn k es) := by
    intro es hes
    induction es with
    | nil => cases hes
    | cons e es ih =>
      by_cases hk : e.1 = k
      · simp only [find, hk, if_true, Option.some.injEq] at hes
        obtain rfl : e = (k, a) := Prod.ext hk hes
        simp [eraseIn]
      · simp only [find, hk, if_false] at hes
        simp only [eraseIn, hk, if_false]
        exact ((ih hes).cons e).trans (List.Perm.swap _ _ _)
  exact hperm t.entries h

theorem entries_modify_perm (f : α → α) (h : t.get? k = some a) :
    (t.modify k f).entries.Perm ((k, f a) :: (t.erase k).entries) := by
  have hget : (t.modify k f).get? k = some (f a) := by
    rw [get?_modify, if_pos rfl, h]
    rfl
  have := entries_perm hget
  rwa [erase_modify] at this

theorem values_perm (h : t.get? k = some a) : t.values.Perm (a :: (t.erase k).values) :=
  (entries_perm h).map Prod.snd

theorem values_erase_perm (t : Table κ α) (k : κ) :
    ∃ gone, t.values.Perm ((t.erase k).values ++ gone) := by
  cases h : t.get? k with
  | none => exact ⟨[], by rw [erase_of_absent h, List.append_nil]⟩
  | some a => exact ⟨[a], (values_perm h).trans (List.perm_append_singleton _ _).symm⟩

theorem values_modify_perm (f : α → α) (h : t.get? k = some a) :
    (t.modify k f).values.Perm (f a :: (t.erase k).values) :=
  (entries_modify_perm f h).map Prod.snd

theorem values_insert_perm : (t.insert k a).values.Perm (a :: (t.erase k).values) := by
  have hget : (t.insert k a).get? k = some a := get?_insert_self t k a
  have herase : (t.insert k a).erase k = t.erase k := by
    cases hk : t.get? k with
    | none => rw [erase_insert_of_absent a hk, erase_of_absent hk]
    | some b =>
      unfold insert
      rw [dif_pos (by simp [contains, hk]), erase_modify]
  have := values_perm hget
  rwa [herase] at this

end GpuTrace.Table
