import GpuTrace.Proofs.Profile.Stop

/-!
# Names — what a verbose name tells of an operation

A verbose name is cut in one way only. The first bracket ends the name of the operation
(`name_append_suffix_inj`), and a number ends at the first character that is no digit
(`digits_append_inj`). The three suffixes differ in the character behind the bracket, a letter, a
digit or none, so a suffix gives back the numbers that it was made of (`suffix_inj`).

A completed call writes the row of its display name and no other (`Writes.named`), so the calls of
a row are of operations that are shown alike (`displayName_separates`).
-/

namespace GpuTrace

open Fallible

/-! ## Texts with separators -/

/-- A separator that neither front part has stands at the same place. -/
theorem append_separator_inj {a b s t : List Char} {c : Char} (ha : c ∉ a) (hb : c ∉ b) :
    a ++ c :: s = b ++ c :: t ↔ a = b ∧ s = t := by
  constructor
  · intro h
    induction a generalizing b with
    | nil =>
      cases b with
      | nil => exact ⟨rfl, (List.cons.inj h).2⟩
      | cons d b => exact absurd (List.cons.inj h).1 (List.ne_of_not_mem_cons hb)
    | cons d a ih =>
      cases b with
      | nil => exact absurd (List.cons.inj h).1.symm (List.ne_of_not_mem_cons ha)
      | cons d' b =>
        obtain ⟨rfl, hrest⟩ := List.cons.inj h
        obtain ⟨rfl, rfl⟩ := ih (List.not_mem_of_not_mem_cons ha) (List.not_mem_of_not_mem_cons hb)
          hrest
        exact ⟨rfl, rfl⟩
  · rintro ⟨rfl, rfl⟩
    rfl

/-- A number ends where its digits end. -/
theorem digits_append_inj {m n : Nat} {c : Char} (hc : c.isDigit = false) {s t : List Char} :
    Nat.toDigits 10 m ++ c :: s = Nat.toDigits 10 n ++ c :: t ↔ m = n ∧ s = t := by
  rw [append_separator_inj (not_mem_digits hc m) (not_mem_digits hc n), ← toList_toString,
    ← toList_toString]
  exact and_congr_left fun _ => ⟨toString_injective, fun h => h ▸ rfl⟩

/-- A text that begins with a letter is not one that begins with a number. -/
theorem cons_ne_digits_append {n : Nat} {c d : Char} (hc : c.isDigit = false) (hd : c ≠ d)
    {s t : List Char} : c :: s ≠ Nat.toDigits 10 n ++ d :: t := by
  intro h
  cases hdigits : Nat.toDigits 10 n with
  | nil =>
    rw [hdigits] at h
    exact hd (List.cons.inj h).1
  | cons first rest =>
    rw [hdigits] at h
    refine not_mem_digits hc n ?_
    rw [hdigits, (List.cons.inj h).1]
    exact List.mem_cons_self

theorem toString_string (s : String) : toString s = s := rfl

namespace Dims

theorem toList_text (d : Dims) :
    d.text.toList = '{' :: (Nat.toDigits 10 d.x.toNat ++ ';' :: ' ' ::
      (Nat.toDigits 10 d.y.toNat ++ ';' :: ' ' :: (Nat.toDigits 10 d.z.toNat ++ ['}']))) := by
  simp [text, toString_string]

theorem text_append_inj {d e : Dims} {s t : List Char} :
    d.text.toList ++ s = e.text.toList ++ t ↔ d = e ∧ s = t := by
  have hsemicolon : Char.isDigit ';' = false := by decide
  have hbrace : Char.isDigit '}' = false := by decide
  simp only [toList_text, List.cons_append, List.append_assoc, List.nil_append, List.cons.injEq,
    true_and, digits_append_inj hsemicolon, digits_append_inj hbrace]
  cases d
  cases e
  simp only [mk.injEq, UInt32.toNat_inj, and_assoc]

end Dims

namespace Props

variable {p q : Props}

/-- Everything that a verbose name shows is the same: the names, and the launch dimensions of two
kernels or the bytes of two other operations. -/
def ShownAlike (p q : Props) : Prop :=
  p.name = q.name ∧
    (0 < p.simdWidth ∧ p.simdWidth = q.simdWidth ∧ p.groupCount = q.groupCount ∧
        p.groupSize = q.groupSize ∨
      p.simdWidth = 0 ∧ q.simdWidth = 0 ∧ p.bytes = q.bytes)

/-! ## Suffixes -/

theorem toList_suffix_of_kernel (h : 0 < p.simdWidth) :
    p.suffix.toList = '[' :: 'S' :: 'I' :: 'M' :: 'D' ::
      (Nat.toDigits 10 p.simdWidth.toNat ++ ' ' ::
        (p.groupCount.text.toList ++ ' ' :: (p.groupSize.text.toList ++ [']']))) := by
  simp only [suffix, if_pos h]
  simp [toString_string]

theorem toList_suffix_of_bytes (h : p.simdWidth = 0) (hbytes : 0 < p.bytes) :
    p.suffix.toList = '[' :: (Nat.toDigits 10 p.bytes.toNat ++ ' ' :: "bytes]".toList) := by
  have hkernel : ¬ 0 < p.simdWidth := by simp [h]
  simp only [suffix, if_neg hkernel, if_pos hbytes]
  simp [toString_string]

theorem suffix_of_nothing (h : p.simdWidth = 0) (hbytes : p.bytes = 0) : p.suffix = "" := by
  simp [suffix, h, hbytes]

/-- A suffix is empty or begins with a bracket. -/
theorem suffix_cases (p : Props) :
    p.suffix.toList = [] ∨ ∃ rest, p.suffix.toList = '[' :: rest := by
  by_cases hkernel : p.simdWidth = 0
  · by_cases hbytes : p.bytes = 0
    · exact .inl (by rw [suffix_of_nothing hkernel hbytes]; rfl)
    · exact .inr ⟨_, toList_suffix_of_bytes hkernel (UInt64.pos_iff_ne_zero.mpr hbytes)⟩
  · exact .inr ⟨_, toList_suffix_of_kernel (UInt32.pos_iff_ne_zero.mpr hkernel)⟩

theorem suffix_inj_of_kernels (hp : 0 < p.simdWidth) (hq : 0 < q.simdWidth) :
    p.suffix = q.suffix ↔ p.simdWidth = q.simdWidth ∧ p.groupCount = q.groupCount ∧
      p.groupSize = q.groupSize := by
  have hblank : Char.isDigit ' ' = false := by decide
  rw [← String.toList_inj, toList_suffix_of_kernel hp, toList_suffix_of_kernel hq]
  simp only [List.cons.injEq, true_and, digits_append_inj hblank, Dims.text_append_inj, and_true,
    UInt32.toNat_inj]

theorem suffix_inj_of_transfers (hp : p.simdWidth = 0) (hq : q.simdWidth = 0) :
    p.suffix = q.suffix ↔ p.bytes = q.bytes := by
  have hblank : Char.isDigit ' ' = false := by decide
  rw [← String.toList_inj]
  by_cases hpb : p.bytes = 0
  · by_cases hqb : q.bytes = 0
    · simp [suffix_of_nothing hp hpb, suffix_of_nothing hq hqb, hpb, hqb]
    · have hqb' := UInt64.pos_iff_ne_zero.mpr hqb
      simp [suffix_of_nothing hp hpb, toList_suffix_of_bytes hq hqb', hpb, Ne.symm hqb]
  · have hpb' := UInt64.pos_iff_ne_zero.mpr hpb
    by_cases hqb : q.bytes = 0
    · simp [toList_suffix_of_bytes hp hpb', suffix_of_nothing hq hqb, hqb, hpb]
    · have hqb' := UInt64.pos_iff_ne_zero.mpr hqb
      rw [toList_suffix_of_bytes hp hpb', toList_suffix_of_bytes hq hqb', List.cons.injEq,
        digits_append_inj hblank]
      simp only [true_and, and_true, UInt64.toNat_inj]

/-- A letter stands behind the bracket of a kernel, and a digit behind that of a transfer. -/
theorem suffix_ne_of_kernel (hp : 0 < p.simdWidth) (hq : q.simdWidth = 0) :
    p.suffix ≠ q.suffix := by
  intro h
  have hlists := congrArg String.toList h
  rw [toList_suffix_of_kernel hp] at hlists
  by_cases hqb : q.bytes = 0
  · rw [suffix_of_nothing hq hqb] at hlists
    cases hlists
  · rw [toList_suffix_of_bytes hq (UInt64.pos_iff_ne_zero.mpr hqb)] at hlists
    exact cons_ne_digits_append (by decide) (by decide) (List.cons.inj hlists).2

theorem suffix_inj : p.suffix = q.suffix ↔
    (0 < p.simdWidth ∧ p.simdWidth = q.simdWidth ∧ p.groupCount = q.groupCount ∧
        p.groupSize = q.groupSize ∨
      p.simdWidth = 0 ∧ q.simdWidth = 0 ∧ p.bytes = q.bytes) := by
  by_cases hp : p.simdWidth = 0 <;> by_cases hq : q.simdWidth = 0
  · rw [suffix_inj_of_transfers hp hq]
    simp [hp, hq]
  · have hq' := UInt32.pos_iff_ne_zero.mpr hq
    simp [hp, hq, (suffix_ne_of_kernel hq' hp).symm]
  · have hp' := UInt32.pos_iff_ne_zero.mpr hp
    simp [hp, hq, suffix_ne_of_kernel hp' hq]
  · have hp' := UInt32.pos_iff_ne_zero.mpr hp
    rw [suffix_inj_of_kernels hp' (UInt32.pos_iff_ne_zero.mpr hq)]
    simp [hp, hp']

/-! ## Verbose names -/

/-- The first bracket ends the name of the operation. -/
theorem name_append_suffix_inj (hp : '[' ∉ p.name.toList) (hq : '[' ∉ q.name.toList) :
    p.name ++ p.suffix = q.name ++ q.suffix ↔ p.ShownAlike q := by
  unfold ShownAlike
  rw [← suffix_inj, ← String.toList_inj, String.toList_append, String.toList_append,
    ← String.toList_inj, ← String.toList_inj]
  rcases p.suffix_cases with hps | ⟨s, hps⟩ <;> rcases q.suffix_cases with hqs | ⟨t, hqs⟩
  · simp [hps, hqs]
  · -- the bracket would have to stand in the name of `p`
    have hne : p.name.toList ≠ q.name.toList ++ '[' :: t := by
      intro h
      exact hp (h ▸ List.mem_append_right _ List.mem_cons_self)
    simp [hps, hqs, hne]
  · have hne : p.name.toList ++ '[' :: s ≠ q.name.toList := by
      intro h
      exact hq (h ▸ List.mem_append_right _ List.mem_cons_self)
    simp [hps, hqs, hne]
  · rw [hps, hqs, append_separator_inj hp hq, List.cons.injEq]
    simp only [true_and]

theorem displayName_of_named (h : p.name ≠ "") (verbose : Bool) :
    p.displayName verbose = .ok (if verbose then p.name ++ p.suffix else p.name) := by
  have hname : p.name.isEmpty = false := by simpa using h
  unfold displayName
  rw [hname]
  rfl

end Props

/-! ## Rows -/

namespace Profile

/-- Taking in the call changes this row of the kernel table, also if it stops with a fault. -/
def Writes (p : Profile) (call : Call) (command : Command) (timestamp : KernelTimestamp)
    (row : String) : Prop :=
  (final (finish call command timestamp) p).kernels.get? row ≠ p.kernels.get? row

instance writesDecidable (p : Profile) (call : Call) (command : Command)
    (timestamp : KernelTimestamp) (row : String) :
    Decidable (p.Writes call command timestamp row) :=
  inferInstanceAs (Decidable (_ ≠ _))

variable {p : Profile} {call : Call} {command : Command} {timestamp : KernelTimestamp}
  {row : String}

theorem eq_of_insert_ne {kernels : Table String KernelInfo} {name : String} {info : KernelInfo}
    (h : (kernels.insert name info).get? row ≠ kernels.get? row) : name = row := by
  by_contra hne
  rw [Table.get?_insert, if_neg (Ne.symm hne)] at h
  exact h rfl

/-- Only the row of the display name is written. -/
theorem Writes.named (h : p.Writes call command timestamp row) :
    command.props.displayName p.verbose = .ok row := by
  unfold Writes at h
  cases hplaced : timestamp.onHost command.frequency call.anchor with
  | error e =>
    rw [final_of_error (finish_of_unplaced hplaced)] at h
    exact absurd rfl h
  | ok window =>
    let f : Finished := ⟨call, command, timestamp, window, hplaced⟩
    have hends := finish_adds (p := p) call command timestamp
    cases hfinish : finish call command timestamp p with
    | ok notice p' =>
      obtain ⟨g, hg, -, hadds⟩ := hends.of_ok hfinish
      obtain ⟨rfl, rfl, rfl⟩ := Finished.of?_cases hg
      obtain ⟨name, info, intervals, hname, -, -, -, rfl⟩ := adds_iff.mp hadds
      rw [final_of_ok hfinish] at h
      rw [hname, eq_of_insert_ne h]
    | error e p' =>
      have hstops : f.Stops p e p' := finish_stops_iff.mp hfinish
      rw [final_of_error hfinish] at h
      cases hstops with
      | unnamed | total => exact absurd rfl h
      | count hname | unlisted hname | early hname => rw [hname, eq_of_insert_ne h]

end Profile

namespace Props

/-- **Verbose names separate exactly what they show.** Two operations whose names are not empty and
have no bracket get the same verbose name exactly if they are shown alike. So two completed calls of
such operations, taken in by verbose profiles, write the same row of the kernel table exactly if
their operations are shown alike. -/
theorem displayName_separates {p q : Props} (hp : p.name ≠ "" ∧ '[' ∉ p.name.toList)
    (hq : q.name ≠ "" ∧ '[' ∉ q.name.toList) :
    (∃ shown shown', p.displayName true = .ok shown ∧ q.displayName true = .ok shown' ∧
      (shown = shown' ↔ p.ShownAlike q)) ∧
    ∀ (profile profile' : Profile) (call call' : Call) (command command' : Command)
      (timestamp timestamp' : KernelTimestamp) (row row' : String),
      profile.verbose = true → profile'.verbose = true → command.props = p → command'.props = q →
      profile.Writes call command timestamp row → profile'.Writes call' command' timestamp' row' →
      (row = row' ↔ p.ShownAlike q) := by
  have hshown := displayName_of_named hp.1 true
  have hshown' := displayName_of_named hq.1 true
  have hinj := name_append_suffix_inj hp.2 hq.2
  refine ⟨⟨_, _, hshown, hshown', hinj⟩, ?_⟩
  rintro profile profile' call call' command command' timestamp timestamp' row row' hverbose
    hverbose' rfl rfl hwrites hwrites'
  have hrow := hwrites.named
  have hrow' := hwrites'.named
  rw [hverbose, hshown] at hrow
  rw [hverbose', hshown'] at hrow'
  cases hrow
  cases hrow'
  exact hinj

def launchOf (simdWidth groups : UInt32) : Props :=
  kernel "axpy" simdWidth ⟨64, 1, 1⟩ (some ⟨groups, 1, 1⟩)

def commandOf (p : Props) : Command where
  props := p
  signal := .borrowed ⟨3⟩
  device := ⟨1⟩
  kernelId := 1
  appendTime := 50
  frequency := 1000000000
  callCount := 1

/-- Its first call, which ran from tick 20 to tick 30, writes this row of an empty profile. -/
def FirstRow (p : Props) (row : String) : Prop :=
  (Profile.of .empty true false .host).Writes ⟨⟨⟨50⟩, 0, 0⟩, ⟨70⟩, ⟨100, 10⟩, 1⟩ (commandOf p)
    ⟨20, 30⟩ row

instance firstRowDecidable (p : Props) (row : String) : Decidable (p.FirstRow row) :=
  inferInstanceAs (Decidable (Profile.Writes ..))

/-- A width of 1 with 12 groups and a width of 11 with 2 groups have the same digits, but not the
same row. Bytes are not shown of a kernel, so they do not part the row of its calls. -/
theorem displayName_separates_sameDigits :
    (∃ row row', (launchOf 1 12).FirstRow row ∧ (launchOf 11 2).FirstRow row' ∧ row ≠ row') ∧
    ∃ row, (launchOf 1 12).FirstRow row ∧ { launchOf 1 12 with bytes := 7 }.FirstRow row ∧
      (launchOf 1 12).ShownAlike { launchOf 1 12 with bytes := 7 } := by
  have hp : (launchOf 1 12).name ≠ "" ∧ '[' ∉ (launchOf 1 12).name.toList := by decide +kernel
  have hrow : (launchOf 1 12).FirstRow "axpy[SIMD1 \x7b12; 1; 1\x7d \x7b64; 1; 1\x7d]" := by
    decide +kernel
  have hrow' : (launchOf 11 2).FirstRow "axpy[SIMD11 \x7b2; 1; 1\x7d \x7b64; 1; 1\x7d]" := by
    decide +kernel
  have hbytes : { launchOf 1 12 with bytes := 7 }.FirstRow
      "axpy[SIMD1 \x7b12; 1; 1\x7d \x7b64; 1; 1\x7d]" := by
    decide +kernel
  constructor
  · refine ⟨_, _, hrow, hrow', fun heq => ?_⟩
    have hq : (launchOf 11 2).name ≠ "" ∧ '[' ∉ (launchOf 11 2).name.toList := hp
    have halike := ((displayName_separates hp hq).2 _ _ _ _ _ _ _ _ _ _ rfl rfl rfl rfl hrow
      hrow').mp heq
    rcases halike.2 with ⟨-, hwidth, -⟩ | ⟨hwidth, -⟩
    · exact absurd hwidth (by decide)
    · exact absurd hwidth (by decide)
  · have hq : { launchOf 1 12 with bytes := 7 }.name ≠ "" ∧
        '[' ∉ { launchOf 1 12 with bytes := 7 }.name.toList := hp
    refine ⟨_, hrow, hbytes, ?_⟩
    exact ((displayName_separates hp hq).2 _ _ _ _ _ _ _ _ _ _ rfl rfl rfl rfl hrow hbytes).mp rfl

/-- With a bracket in the name, two operations can be shown by one text. -/
example : (transfer "fill[8 bytes]" 0).displayName true = (transfer "fill" 8).displayName true := by
  decide +kernel

end Props

end GpuTrace
