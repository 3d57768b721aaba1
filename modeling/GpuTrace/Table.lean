/-!
# Tables — finite maps in order of first insertion

A table holds each key once. Overwriting a key keeps its place, so the order of
the entries is the order in which keys were first seen; it is the only order a
listing of a table shows. `get?` is the view, and there is one equation per
operation: `get?_insert`, `get?_erase`, `get?_modify`.
-/

namespace GpuTrace

/-- A finite map; no key occurs twice. -/
structure Table (κ α : Type) where
  entries : List (κ × α)
  nodup : (entries.map Prod.fst).Nodup

namespace Table

variable {κ α : Type}

def empty : Table κ α :=
  ⟨[], List.nodup_nil⟩

instance : Inhabited (Table κ α) := ⟨empty⟩

@[ext] theorem ext {t u : Table κ α} (h : t.entries = u.entries) : t = u := by
  cases t
  cases u
  cases h
  rfl

instance [DecidableEq κ] [DecidableEq α] : DecidableEq (Table κ α) := fun t u =>
  if h : t.entries = u.entries then .isTrue (ext h)
  else .isFalse fun e => h (e ▸ rfl)

def size (t : Table κ α) : Nat := t.entries.length

def keys (t : Table κ α) : List κ := t.entries.map Prod.fst

def values (t : Table κ α) : List α := t.entries.map Prod.snd

theorem nodup_keys (t : Table κ α) : t.keys.Nodup := t.nodup

section Lookup

variable [DecidableEq κ]

def find (k : κ) : List (κ × α) → Option α
  | [] => none
  | e :: es => if e.1 = k then some e.2 else find k es

def get? (t : Table κ α) (k : κ) : Option α := find k t.entries

def contains (t : Table κ α) (k : κ) : Bool := (t.get? k).isSome

theorem find_eq_none_iff {k : κ} {es : List (κ × α)} :
    find k es = none ↔ k ∉ es.map Prod.fst := by
  induction es with
  | nil => simp [find]
  | cons e es ih =>
    by_cases h : e.1 = k
    · simp [find, h]
    · simp [find, h, ih, Ne.symm h]

theorem mem_keys_iff {t : Table κ α} {k : κ} : k ∈ t.keys ↔ t.contains k = true := by
  have h : find k t.entries = none ↔ k ∉ t.entries.map Prod.fst := find_eq_none_iff
  unfold contains get? keys
  cases hf : find k t.entries with
  | none => simpa using h.mp hf
  | some a =>
    have : ¬ find k t.entries = none := by simp [hf]
    simpa [hf] using Decidable.not_not.mp (fun hk => this (h.mpr hk))

theorem find_append {k : κ} (es fs : List (κ × α)) :
    find k (es ++ fs) = (find k es).or (find k fs) := by
  induction es with
  | nil => simp [find]
  | cons e es ih =>
    by_cases h : e.1 = k
    · simp [find, h]
    · simp [find, h, ih]

def modifyIn (k : κ) (f : α → α) : List (κ × α) → List (κ × α)
  | [] => []
  | e :: es => if e.1 = k then (e.1, f e.2) :: es else e :: modifyIn k f es

def eraseIn (k : κ) : List (κ × α) → List (κ × α)
  | [] => []
  | e :: es => if e.1 = k then es else e :: eraseIn k es

theorem keys_modifyIn (k : κ) (f : α → α) (es : List (κ × α)) :
    (modifyIn k f es).map Prod.fst = es.map Prod.fst := by
  induction es with
  | nil => rfl
  | cons e es ih =>
    by_cases h : e.1 = k
    · simp [modifyIn, h]
    · simp [modifyIn, h, ih]

theorem find_modifyIn {k j : κ} (f : α → α) (es : List (κ × α)) :
    find j (modifyIn k f es) = if j = k then (find j es).map f else find j es := by
  induction es with
  | nil => simp [modifyIn, find]
  | cons e es ih =>
    by_cases h : e.1 = k
    · subst h
      by_cases hj : j = e.1
      · simp [modifyIn, find, hj]
      · simp [modifyIn, find, hj, Ne.symm hj]
    · by_cases hj : e.1 = j
      · subst hj
        simp [modifyIn, find, h]
      · simp [modifyIn, find, h, hj, ih]

theorem modifyIn_modifyIn (k : κ) (f g : α → α) (es : List (κ × α)) :
    modifyIn k g (modifyIn k f es) = modifyIn k (fun a => g (f a)) es := by
  induction es with
  | nil => rfl
  | cons e es ih =>
    by_cases h : e.1 = k
    · simp [modifyIn, h]
    · simp [modifyIn, h, ih]

theorem eraseIn_modifyIn (k : κ) (f : α → α) (es : List (κ × α)) :
    eraseIn k (modifyIn k f es) = eraseIn k es := by
  induction es with
  | nil => rfl
  | cons e es ih =>
    by_cases h : e.1 = k
    · simp [modifyIn, eraseIn, h]
    · simp [modifyIn, eraseIn, h, ih]

theorem eraseIn_sublist (k : κ) (es : List (κ × α)) : (eraseIn k es).Sublist es := by
  induction es with
  | nil => exact List.Sublist.refl _
  | cons e es ih =>
    by_cases h : e.1 = k
    · simp [eraseIn, h]
    · simp [eraseIn, h, ih]

theorem find_eraseIn {k j : κ} {es : List (κ × α)} (h : (es.map Prod.fst).Nodup) :
    find j (eraseIn k es) = if j = k then none else find j es := by
  induction es with
  | nil => simp [eraseIn, find]
  | cons e es ih =>
    rw [List.map_cons, List.nodup_cons] at h
    by_cases hk : e.1 = k
    · subst hk
      by_cases hj : j = e.1
      · subst hj
        simpa [eraseIn] using find_eq_none_iff.mpr h.1
      · simp [eraseIn, find, hj, Ne.symm hj]
    · by_cases hj : e.1 = j
      · subst hj
        simp [eraseIn, find, hk]
      · simp [eraseIn, find, hk, hj, ih h.2]

def modify (t : Table κ α) (k : κ) (f : α → α) : Table κ α where
  entries := modifyIn k f t.entries
  nodup := by
    rw [keys_modifyIn]
    exact t.nodup

/-- Writes `a` under `k`: in place if the key is there, else at the end. -/
def insert (t : Table κ α) (k : κ) (a : α) : Table κ α :=
  if h : t.contains k then t.modify k fun _ => a
  else
    { entries := t.entries ++ [(k, a)]
      nodup := by
        have hk : k ∉ t.keys := fun hk => h (mem_keys_iff.mp hk)
        rw [List.map_append, List.nodup_append]
        refine ⟨t.nodup, by simp, ?_⟩
        intro x hx y hy
        simp only [List.map_cons, List.map_nil, List.mem_singleton] at hy
        subst hy
        rintro rfl
        exact hk hx }

def erase (t : Table κ α) (k : κ) : Table κ α where
  entries := eraseIn k t.entries
  nodup := t.nodup.sublist ((eraseIn_sublist k t.entries).map _)

/-- Entries in the given order; a later entry wins over an earlier one. -/
def ofList (es : List (κ × α)) : Table κ α :=
  es.foldl (fun t e => t.insert e.1 e.2) empty

@[simp] theorem get?_empty (k : κ) : (empty : Table κ α).get? k = none := rfl

theorem get?_modify (t : Table κ α) (k j : κ) (f : α → α) :
    (t.modify k f).get? j = if j = k then (t.get? j).map f else t.get? j :=
  find_modifyIn f t.entries

theorem get?_insert (t : Table κ α) (k j : κ) (a : α) :
    (t.insert k a).get? j = if j = k then some a else t.get? j := by
  unfold insert
  split
  case isTrue h =>
    rw [get?_modify]
    by_cases hj : j = k
    · subst hj
      obtain ⟨b, hb⟩ := Option.isSome_iff_exists.mp h
      simp [hb]
    · simp [hj]
  case isFalse h =>
    have hn : find k t.entries = none := by
      simpa [contains, get?] using h
    unfold get?
    rw [find_append]
    by_cases hj : j = k
    · subst hj
      simp [hn, find]
    · simp [find, hj, Ne.symm hj]

theorem get?_erase (t : Table κ α) (k j : κ) :
    (t.erase k).get? j = if j = k then none else t.get? j :=
  find_eraseIn t.nodup

theorem modify_modify (t : Table κ α) (k : κ) (f g : α → α) :
    (t.modify k f).modify k g = t.modify k fun a => g (f a) :=
  ext (modifyIn_modifyIn k f g t.entries)

theorem erase_modify (t : Table κ α) (k : κ) (f : α → α) :
    (t.modify k f).erase k = t.erase k :=
  ext (eraseIn_modifyIn k f t.entries)

theorem contains_eq_false_iff {t : Table κ α} {k : κ} :
    t.contains k = false ↔ t.get? k = none := by
  simp [contains]

theorem contains_insert (t : Table κ α) (k j : κ) (a : α) :
    (t.insert k a).contains j = (decide (j = k) || t.contains j) := by
  unfold contains
  rw [get?_insert]
  by_cases h : j = k
  · simp [h]
  · simp [h]

end Lookup

end Table

end GpuTrace
