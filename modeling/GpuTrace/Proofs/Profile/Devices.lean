import GpuTrace.Proofs.Calculation
import GpuTrace.Proofs.Profile.History

/-!
# Devices — the slices of roots and of their sub-devices

A sub-device is looked up among the roots in whatever order they are listed, and the first root that
has it wins. If every handle names one device (`SeparateDevices`) there is only one such root and
one place (`SeparateDevices.owner_unique`), so the look-up finds it in every order
(`ownerOf_eq_some_iff`). What a map answers is then fixed by the roots alone: `Coherent` says what
it is, and every map of such roots is coherent (`coherent_of_separate`). Slices are counted in
32-bit words, so they stand for the sub-devices one by one where these are fewer than that.
-/

namespace GpuTrace

open Fallible

/-- Every handle of an enumeration names one device: the roots are distinct, their lists of
sub-devices have no repetitions and share no device, and no sub-device is a root. -/
structure SeparateDevices (roots : List (DeviceHandle × List DeviceHandle)) : Prop where
  distinct : (roots.map Prod.fst).Nodup
  unrepeated : ∀ entry ∈ roots, entry.2.Nodup
  disjoint : ∀ entry ∈ roots, ∀ entry' ∈ roots, entry ≠ entry' → entry.2.Disjoint entry'.2
  apart : ∀ entry ∈ roots, ∀ entry' ∈ roots, entry.1 ∉ entry'.2

namespace SeparateDevices

variable {roots roots' : List (DeviceHandle × List DeviceHandle)}

theorem perm (h : SeparateDevices roots) (hperm : roots'.Perm roots) : SeparateDevices roots' where
  distinct := (hperm.map Prod.fst).nodup_iff.mpr h.distinct
  unrepeated entry he := h.unrepeated entry (hperm.mem_iff.mp he)
  disjoint entry he entry' he' :=
    h.disjoint entry (hperm.mem_iff.mp he) entry' (hperm.mem_iff.mp he')
  apart entry he entry' he' := h.apart entry (hperm.mem_iff.mp he) entry' (hperm.mem_iff.mp he')

theorem owner_unique (h : SeparateDevices roots) {device root root' : DeviceHandle}
    {tiles tiles' : List DeviceHandle} {place place' : Nat}
    (hroot : (root, tiles) ∈ roots) (hplace : tiles[place]? = some device)
    (hroot' : (root', tiles') ∈ roots) (hplace' : tiles'[place']? = some device) :
    root = root' ∧ place = place' := by
  by_cases hsame : (root, tiles) = (root', tiles')
  · obtain ⟨rfl, rfl⟩ := Prod.mk.inj hsame
    obtain ⟨hlt, -⟩ := List.getElem?_eq_some_iff.mp hplace
    have hindices := hplace.trans hplace'.symm
    exact ⟨rfl, (List.getElem?_inj hlt (h.unrepeated _ hroot)).mp hindices⟩
  · exact absurd (List.mem_of_getElem? hplace')
      (h.disjoint _ hroot _ hroot' hsame (List.mem_of_getElem? hplace))

end SeparateDevices

namespace DeviceMap

variable {roots roots' : List (DeviceHandle × List DeviceHandle)} {m m' : DeviceMap}
  {device root : DeviceHandle} {tiles : List DeviceHandle} {place : Nat}

/-! ## Roots -/

theorem exists_ofRoots (h : (roots.map Prod.fst).Nodup) : ∃ m, ofRoots roots = .ok m := by
  have hends : ∀ (roots : List (DeviceHandle × List DeviceHandle)) (m₀ : DeviceMap),
      (roots.map Prod.fst).Nodup → (∀ entry ∈ roots, m₀.roots.contains entry.1 = false) →
      Ends (roots.forM fun root => insert root.1 root.2) m₀ (fun _ _ => True)
        fun _ _ => False := by
    intro roots
    induction roots with
    | nil => exact fun _ _ _ => trivial
    | cons entry roots ih =>
      intro m₀ hnodup habsent
      rw [List.map_cons, List.nodup_cons] at hnodup
      show Ends (insert entry.1 entry.2 >>= fun _ =>
        roots.forM fun root => insert root.1 root.2) _ _ _
      rw [ends_bind]
      unfold Ends insert
      rw [habsent entry List.mem_cons_self]
      refine ih _ hnodup.2 fun entry' he' => ?_
      have hne : entry'.1 ≠ entry.1 := by
        intro heq
        exact hnodup.1 (heq ▸ List.mem_map_of_mem he')
      show (m₀.roots.insert entry.1 entry.2).contains entry'.1 = false
      rw [Table.contains_insert, habsent entry' (List.mem_cons_of_mem _ he'), Bool.or_false]
      exact decide_eq_false hne
  obtain ⟨_, m, hok, -⟩ := (hends roots empty h fun _ _ => rfl).exists_ok
  refine ⟨m, ?_⟩
  unfold ofRoots EStateM.run
  rw [hok]

theorem get?_roots (hm : ofRoots roots = .ok m) :
    m.roots.get? device = some tiles ↔ (device, tiles) ∈ roots := by
  rw [← Table.mem_entries_iff, ofRoots_entries hm]

/-! ## Owners -/

theorem ownerOf_eq_none_iff : ownerOf device roots = none ↔ ∀ entry ∈ roots, device ∉ entry.2 := by
  induction roots with
  | nil => simp [ownerOf]
  | cons entry roots ih =>
    unfold ownerOf
    rw [List.forall_mem_cons, ← ih]
    cases hplace : entry.2.idxOf? device with
    | none => simp [List.idxOf?_eq_none_iff.mp hplace]
    | some place =>
      have hmem : device ∈ entry.2 := by
        by_contra hnot
        rw [List.idxOf?_eq_none_iff.mpr hnot] at hplace
        cases hplace
      simp [hmem]

/-- The look-up finds the only place there is. -/
theorem ownerOf_eq_some_iff (h : SeparateDevices roots) :
    ownerOf device roots = some (root, place) ↔
      ∃ tiles, (root, tiles) ∈ roots ∧ tiles[place]? = some device := by
  constructor
  · exact ownerOf_eq_some
  · rintro ⟨tiles, hroot, hplace⟩
    cases howner : ownerOf device roots with
    | none => exact absurd (List.mem_of_getElem? hplace) (ownerOf_eq_none_iff.mp howner _ hroot)
    | some found =>
      obtain ⟨tiles', hroot', hplace'⟩ := ownerOf_eq_some howner
      obtain ⟨rfl, rfl⟩ := h.owner_unique hroot hplace hroot' hplace'
      rfl

/-- The order in which the roots are gone through does not matter. -/
theorem ownerOf_perm (h : SeparateDevices roots) (hperm : roots'.Perm roots) :
    ownerOf device roots' = ownerOf device roots := by
  refine Option.ext fun ⟨root, place⟩ => ?_
  rw [ownerOf_eq_some_iff (h.perm hperm), ownerOf_eq_some_iff h]
  simp only [hperm.mem_iff]

/-! ## Slices -/

theorem slices_whole (hm : ofRoots roots = .ok m) (hroot : (root, []) ∈ roots) :
    m.slices root = .ok (root, [0]) := by
  unfold slices
  rw [(get?_roots hm).mpr hroot]

theorem slices_partitioned (hm : ofRoots roots = .ok m) (hroot : (root, tiles) ∈ roots)
    (hsome : tiles ≠ []) :
    m.slices root = .ok (root, List.range (tiles.length % UInt32.size)) := by
  unfold slices
  rw [(get?_roots hm).mpr hroot]
  cases tiles with
  | nil => exact absurd rfl hsome
  | cons tile tiles => rfl

theorem slices_tile (h : SeparateDevices roots) (hm : ofRoots roots = .ok m)
    (hroot : (root, tiles) ∈ roots) (hplace : tiles[place]? = some device) :
    m.slices device = .ok (root, [place % UInt32.size]) := by
  have habsent : m.roots.get? device = none := by
    cases hget : m.roots.get? device with
    | none => rfl
    | some tiles' =>
      exact absurd (List.mem_of_getElem? hplace)
        (h.apart _ ((get?_roots hm).mp hget) _ hroot)
  have howner : ownerOf device m.roots.entries = some (root, place) := by
    rw [ofRoots_entries hm]
    exact (ownerOf_eq_some_iff h).mpr ⟨tiles, hroot, hplace⟩
  unfold slices
  rw [habsent, howner]

theorem slices_partitioned_of_lt (hm : ofRoots roots = .ok m) (hroot : (root, tiles) ∈ roots)
    (hsome : tiles ≠ []) (hfits : tiles.length < UInt32.size) :
    m.slices root = .ok (root, List.range tiles.length) := by
  rw [slices_partitioned hm hroot hsome, Nat.mod_eq_of_lt hfits]

theorem slices_tile_of_lt (h : SeparateDevices roots) (hm : ofRoots roots = .ok m)
    (hroot : (root, tiles) ∈ roots) (hfits : tiles.length < UInt32.size)
    (hplace : tiles[place]? = some device) : m.slices device = .ok (root, [place]) := by
  obtain ⟨hlt, -⟩ := List.getElem?_eq_some_iff.mp hplace
  rw [slices_tile h hm hroot hplace, Nat.mod_eq_of_lt (hlt.trans hfits)]

/-- The slices of a partitioned root are those of its sub-devices, in order. -/
theorem slices_joined (h : SeparateDevices roots) (hm : ofRoots roots = .ok m)
    (hroot : (root, tiles) ∈ roots) (hsome : tiles ≠ []) (hfits : tiles.length < UInt32.size) :
    ∃ parts, tiles.mapM m.slices = .ok parts ∧
      m.slices root = .ok (root, parts.flatMap Prod.snd) := by
  refine ⟨(List.range tiles.length).map fun place => (root, [place]), ?_, ?_⟩
  · rw [Calculation.mapM_eq_ok_iff, List.forall₂_iff_get]
    refine ⟨by simp, fun place hplace _ => ?_⟩
    rw [List.get_eq_getElem, List.get_eq_getElem, List.getElem_map, List.getElem_range]
    exact slices_tile_of_lt h hm hroot hfits (List.getElem?_eq_getElem hplace)
  · rw [slices_partitioned_of_lt hm hroot hsome hfits, List.flatMap_map]
    simp [List.flatMap_singleton']

theorem slices_eq_error_iff (hm : ofRoots roots = .ok m) {e : Fault} :
    m.slices device = .error e ↔
      (∀ entry ∈ roots, device ≠ entry.1 ∧ device ∉ entry.2) ∧ e = .deviceNotMapped device := by
  have hroots : m.roots.get? device = none ↔ ∀ entry ∈ roots, device ≠ entry.1 := by
    rw [Option.eq_none_iff_forall_ne_some]
    simp only [ne_eq, get?_roots hm]
    constructor
    · rintro h ⟨root, tiles⟩ he rfl
      exact h tiles he
    · intro h tiles he
      exact h _ he rfl
  rw [forall₂_and, ← hroots, ← ownerOf_eq_none_iff, ← ofRoots_entries hm]
  unfold slices
  cases m.roots.get? device with
  | some tiles => cases tiles <;> simp
  | none =>
    dsimp only
    cases ownerOf device m.roots.entries <;> simp [eq_comm]

/-- Maps with the same roots in any order answer the same. -/
theorem slices_perm (h : SeparateDevices roots) (hm : ofRoots roots = .ok m)
    (hperm : m'.roots.entries.Perm m.roots.entries) : m'.slices device = m.slices device := by
  have hget : m'.roots.get? device = m.roots.get? device := by
    refine Option.ext fun tiles => ?_
    rw [← Table.mem_entries_iff, ← Table.mem_entries_iff, hperm.mem_iff]
  have howner : ownerOf device m'.roots.entries = ownerOf device m.roots.entries := by
    rw [ofRoots_entries hm] at hperm ⊢
    exact ownerOf_perm h hperm
  unfold slices
  rw [hget, howner]

/-- What the map answers is fixed by the roots. The counts and places that it answers are 32-bit
words; with fewer sub-devices than that, each one has a slice of its own. -/
structure Coherent (m : DeviceMap) (roots : List (DeviceHandle × List DeviceHandle)) : Prop where
  /-- Inserting the roots in another order makes no difference. -/
  inserted : ∀ roots', roots'.Perm roots → ∃ m', ofRoots roots' = .ok m' ∧
    ∀ device, m'.slices device = m.slices device
  /-- Neither does it matter in which order the entries are listed. -/
  listed : ∀ m' : DeviceMap, m'.roots.entries.Perm m.roots.entries →
    ∀ device, m'.slices device = m.slices device
  whole : ∀ root, (root, []) ∈ roots → m.slices root = .ok (root, [0])
  partitioned : ∀ root tiles, (root, tiles) ∈ roots → tiles ≠ [] →
    m.slices root = .ok (root, List.range (tiles.length % UInt32.size)) ∧
      (tiles.length < UInt32.size → m.slices root = .ok (root, List.range tiles.length))
  tile : ∀ root tiles place device, (root, tiles) ∈ roots → tiles[place]? = some device →
    m.slices device = .ok (root, [place % UInt32.size]) ∧
      (tiles.length < UInt32.size → m.slices device = .ok (root, [place]))
  joined : ∀ root tiles, (root, tiles) ∈ roots → tiles ≠ [] → tiles.length < UInt32.size →
    ∃ parts, tiles.mapM m.slices = .ok parts ∧ m.slices root = .ok (root, parts.flatMap Prod.snd)
  stops_iff : ∀ device e, m.slices device = .error e ↔
    (∀ entry ∈ roots, device ≠ entry.1 ∧ device ∉ entry.2) ∧ e = .deviceNotMapped device

/-- A map of separate devices is coherent. -/
theorem coherent_of_separate (h : SeparateDevices roots) (hm : ofRoots roots = .ok m) :
    m.Coherent roots where
  inserted roots' hperm := by
    obtain ⟨m', hm'⟩ := exists_ofRoots (h.perm hperm).distinct
    have hentries : m'.roots.entries.Perm m.roots.entries := by
      rwa [ofRoots_entries hm', ofRoots_entries hm]
    exact ⟨m', hm', fun _ => slices_perm h hm hentries⟩
  listed _ hperm _ := slices_perm h hm hperm
  whole _ := slices_whole hm
  partitioned _ _ hroot hsome :=
    ⟨slices_partitioned hm hroot hsome, slices_partitioned_of_lt hm hroot hsome⟩
  tile _ _ _ _ hroot hplace :=
    ⟨slices_tile h hm hroot hplace, fun hfits => slices_tile_of_lt h hm hroot hfits hplace⟩
  joined _ _ := slices_joined h hm
  stops_iff _ _ := slices_eq_error_iff hm

end DeviceMap

end GpuTrace
