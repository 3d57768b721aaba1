import GpuTrace.Proofs.Profile.History

/-!
# Order — profiles that took in the same calls in different orders

A finished call `Adds` to a profile what finishing it does. Two profiles are `Alike` if they have
the same statistics under each name and the same intervals up to their order; the order in which
names were first seen and intervals were listed is all that they can differ in.

Two calls can be exchanged (`Adds.exchange`): sums, shortest and longest durations and counts do
not depend on the order, and a call fits behind another one if it fits before it. So calls that can
be added in one order can be added in every order, with profiles that are alike (`AddsAll.perm`).
-/

namespace GpuTrace

open Fallible

instance commutativeMax_uInt64 : Std.Commutative (α := UInt64) max where
  comm a b := by
    apply UInt64.le_antisymm
    · exact (Std.LawfulOrderSup.max_le_iff a b _).mpr ⟨Std.right_le_max, Std.left_le_max⟩
    · exact (Std.LawfulOrderSup.max_le_iff b a _).mpr ⟨Std.right_le_max, Std.left_le_max⟩

/-! ## Statistics -/

namespace KernelInfo

/-- `k` is what counting one more call makes of what was there under a name. -/
def Counts : Option KernelInfo → UInt64 → KernelInfo → Prop
  | none, duration, k => k = first duration
  | some info, duration, k => record duration info = .ok () k

theorem record_eq_ok_iff {duration : UInt64} {k k' : KernelInfo} :
    record duration k = .ok () k' ↔
      k.totalTime.toNat + duration.toNat = k'.totalTime.toNat ∧
      k'.minTime = min k.minTime duration ∧ k'.maxTime = max k.maxTime duration ∧
      k.callCount.toNat + 1 = k'.callCount.toNat := by
  have hcount : k.callCount.toNat + 1 = k'.callCount.toNat ↔
      Checked.add k.callCount 1 = .ok k'.callCount := by
    rw [Checked.add_eq_ok_iff]
    rfl
  rw [← Checked.add_eq_ok_iff, hcount]
  unfold record
  obtain ⟨total, shortest, longest, count⟩ := k'
  cases Checked.add k.totalTime duration with
  | error e => simp
  | ok total' =>
    cases Checked.add k.callCount 1 with
    | error e => simp
    | ok count' => simp [eq_comm]

theorem Counts.unique {old : Option KernelInfo} {d : UInt64} {k k' : KernelInfo}
    (h : Counts old d k) (h' : Counts old d k') : k = k' := by
  cases old with
  | none => exact Eq.trans h (Eq.symm h')
  | some info =>
    have heq := Eq.trans (Eq.symm h) h'
    cases heq
    rfl

/-- Two calls under one name can be counted in either order. -/
theorem Counts.exchange {old : Option KernelInfo} {d d' : UInt64} {k k₂ : KernelInfo}
    (h : Counts old d k) (h₂ : Counts (some k) d' k₂) :
    ∃ k', Counts old d' k' ∧ Counts (some k') d k₂ := by
  obtain ⟨htotal₂, hmin₂, hmax₂, hcount₂⟩ := record_eq_ok_iff.mp h₂
  cases old with
  | none =>
    obtain rfl : k = first d := h
    refine ⟨first d', rfl, record_eq_ok_iff.mpr ⟨?_, ?_, ?_, hcount₂⟩⟩
    · exact (Nat.add_comm _ _).trans htotal₂
    · exact hmin₂.trans (Std.Commutative.comm d d')
    · exact hmax₂.trans (Std.Commutative.comm d d')
  | some info =>
    obtain ⟨htotal, hmin, hmax, hcount⟩ := record_eq_ok_iff.mp h
    -- Both calls together fit, so the second one fits without the first.
    have hlt := k₂.totalTime.toNat_lt_size
    have hsum : info.totalTime.toNat + d'.toNat < UInt64.size := by omega
    have hfits : (info.totalTime + d').toNat = info.totalTime.toNat + d'.toNat := by
      rw [UInt64.toNat_add, Nat.mod_eq_of_lt hsum]
    refine ⟨⟨info.totalTime + d', min info.minTime d', max info.maxTime d', k.callCount⟩,
      record_eq_ok_iff.mpr ⟨hfits.symm, rfl, rfl, hcount⟩,
      record_eq_ok_iff.mpr ⟨?_, ?_, ?_, hcount₂⟩⟩
    · show (info.totalTime + d').toNat + d.toNat = k₂.totalTime.toNat
      omega
    · rw [hmin₂, hmin]
      ac_rfl
    · rw [hmax₂, hmax]
      ac_rfl

end KernelInfo

namespace Profile

variable {p p' p₁ p₂ q : Profile} {f g : Finished} {fs gs : List Finished}

/-! ## Adding one call -/

def Adds (p : Profile) (f : Finished) (p' : Profile) : Prop :=
  finish f.call f.command f.timestamp p = .ok f.notice p'

theorem Adds.unique (h : Adds p f p₁) (h' : Adds p f p₂) : p₁ = p₂ := by
  have heq := h.symm.trans h'
  cases heq
  rfl

/-- A call finishes if its ticks can be placed on the host clock and it can be added. -/
theorem finish_adds (call : Call) (command : Command) (timestamp : KernelTimestamp) :
    Ends (finish call command timestamp) p
      (fun finish p' => ∃ f, Finished.of? call command timestamp = some f ∧ finish = f.notice ∧
        Adds p f p')
      (fun _ _ => ∀ f, Finished.of? call command timestamp = some f → ∀ p', ¬ Adds p f p') := by
  refine ((finish_ends call command timestamp).and ends_self).imp ?_ ?_
  · rintro _ p' ⟨⟨f, hf, rfl, -⟩, hfinish⟩
    obtain ⟨rfl, rfl, rfl⟩ := Finished.of?_cases hf
    exact ⟨f, hf, rfl, hfinish⟩
  · rintro e p' ⟨-, hstops⟩ f hf p'' hadds
    obtain ⟨rfl, rfl, rfl⟩ := Finished.of?_cases hf
    unfold Adds at hadds
    rw [hstops] at hadds
    cases hadds

/-- The intervals that are listed for a call under a name: one, if intervals are recorded. -/
def listed (p : Profile) (f : Finished) (name : String) : Except Fault (List KernelInterval) :=
  if p.recordsIntervals then do
    let (start, stop) ← windowIn p.domain f.window f.timestamp f.command.frequency
    let (root, slices) ← p.devices.slices f.command.device
    return [{ kernelName := name
              device := root
              domain := p.domain
              windows := slices.map fun subDevice => ⟨start, stop, subDevice⟩ }]
  else return []

theorem recordInfo_eq_ok_iff {name : String} {duration : UInt64} :
    recordInfo name duration p = .ok () p' ↔
      ∃ info, KernelInfo.Counts (p.kernels.get? name) duration info ∧
        p' = { p with kernels := p.kernels.insert name info } := by
  unfold recordInfo
  cases p.kernels.get? name with
  | none => simp [KernelInfo.Counts, eq_comm]
  | some old =>
    dsimp only [KernelInfo.Counts]
    cases KernelInfo.record duration old with
    | ok _ info => simp [eq_comm]
    | error e info => simp

/-- The stages of taking a call in: it is named, counted and listed, and its times are compared. -/
theorem ends_finish {Q : KernelFinish → Profile → Prop} {E : Fault → Profile → Prop} :
    Ends (finish f.call f.command f.timestamp) p Q E ↔
      match f.command.props.displayName p.verbose with
      | .error e => E e p
      | .ok name => Ends (recordInfo name f.duration) p
          (fun _ p₁ =>
            match p.listed f name with
            | .error e => E e p₁
            | .ok intervals =>
              if f.call.anchor.hostTime < f.command.appendTime then
                E (.callBeforeAppend f.command.kernelId)
                  { p₁ with intervals := p.intervals ++ intervals.toArray }
              else Q f.notice { p₁ with intervals := p.intervals ++ intervals.toArray }) E := by
  have hclosing : ∀ p₂ : Profile,
      Ends (if f.call.anchor.hostTime < f.command.appendTime then do
          throw (.callBeforeAppend f.command.kernelId)
          pure f.notice
        else pure f.notice) p₂ Q E ↔
      if f.call.anchor.hostTime < f.command.appendTime then
        E (.callBeforeAppend f.command.kernelId) p₂
      else Q f.notice p₂ := by
    intro p₂
    split <;> simp
  unfold finish
  simp only [ends_bind, ends_get, ends_lift]
  rw [f.placed]
  dsimp only
  cases f.command.props.displayName p.verbose with
  | error e => rfl
  | ok name =>
    dsimp only
    rw [f.window_duration]
    dsimp only
    cases hrecord : recordInfo name f.duration p with
    | error e p₁ => simp [Ends, hrecord]
    | ok _ p₁ =>
      obtain ⟨info, -, rfl⟩ := recordInfo_eq_ok_iff.mp hrecord
      rw [ends_iff_of_ok hrecord, ends_iff_of_ok hrecord]
      unfold listed
      cases p.recordsIntervals with
      | false =>
        simp only [Bool.false_eq_true, if_false]
        refine (hclosing _).trans ?_
        simp [pure, Except.pure]
      | true =>
        simp only [if_true, ends_bind, ends_lift]
        cases windowIn p.domain f.window f.timestamp f.command.frequency with
        | error e => simp [bind, Except.bind]
        | ok found =>
          dsimp only
          unfold recordInterval
          cases hslices : p.devices.slices f.command.device with
          | error e => simp [Ends, hslices, bind, Except.bind]
          | ok owner =>
            simp only [Ends, hslices]
            refine (hclosing _).trans ?_
            simp [bind, Except.bind, pure, Except.pure]

/-- What a call adds: one to the statistics under its name, and its interval. -/
theorem adds_iff : Adds p f p' ↔
    ∃ name info intervals, f.command.props.displayName p.verbose = .ok name ∧
      KernelInfo.Counts (p.kernels.get? name) f.duration info ∧
      p.listed f name = .ok intervals ∧ f.command.appendTime ≤ f.call.anchor.hostTime ∧
      p' = { p with
        kernels := p.kernels.insert name info, intervals := p.intervals ++ intervals.toArray } := by
  rw [Adds, eq_ok_iff_ends, ends_finish]
  cases f.command.props.displayName p.verbose with
  | error e => simp
  | ok name =>
    dsimp only
    cases hrecord : recordInfo name f.duration p with
    | error e p₁ =>
      have hnone : ∀ info, ¬ KernelInfo.Counts (p.kernels.get? name) f.duration info := by
        intro info hinfo
        have hok := recordInfo_eq_ok_iff.mpr ⟨info, hinfo, rfl⟩
        rw [hrecord] at hok
        cases hok
      simp [Ends, hrecord, hnone]
    | ok _ p₁ =>
      obtain ⟨info, hinfo, rfl⟩ := recordInfo_eq_ok_iff.mp hrecord
      have hone : ∀ info', KernelInfo.Counts (p.kernels.get? name) f.duration info' ↔
          info' = info := fun info' => ⟨fun h => h.unique hinfo, fun h => h ▸ hinfo⟩
      rw [ends_iff_of_ok hrecord, ← UInt64.not_lt]
      cases hlisted : p.listed f name with
      | error e => simp [hlisted]
      | ok intervals =>
        dsimp only
        split <;> simp [eq_comm, *]

/-! ## Two orders -/

/-- The same settings, the same statistics under each name, and the same intervals up to their
order. -/
structure Alike (p q : Profile) : Prop where
  settings : { q with kernels := p.kernels, intervals := p.intervals } = p
  table : ∀ name, q.kernels.get? name = p.kernels.get? name
  intervals : q.intervals.toList.Perm p.intervals.toList

theorem Alike.refl (p : Profile) : Alike p p :=
  ⟨rfl, fun _ => rfl, .refl _⟩

theorem Alike.trans (h : Alike p p₁) (h' : Alike p₁ p₂) : Alike p p₂ where
  settings := by
    have hsettings := h.settings
    rw [← h'.settings] at hsettings
    exact hsettings
  table name := (h'.table name).trans (h.table name)
  intervals := h'.intervals.trans h.intervals

/-- What is added to profiles that are alike leaves them alike. -/
theorem Adds.alike (h : Adds p f p') (hq : Alike p q) : ∃ q', Adds q f q' ∧ Alike p' q' := by
  obtain ⟨name, info, intervals, hname, hinfo, hlisted, htime, rfl⟩ := adds_iff.mp h
  obtain ⟨hsettings, htable, hintervals⟩ := hq
  obtain ⟨verbose, records, domain, devices, kernels, listed⟩ := q
  obtain ⟨verbose', records', domain', devices', kernels', listed'⟩ := p
  cases hsettings
  refine ⟨_, adds_iff.mpr ⟨name, info, intervals, hname, ?_, hlisted, htime, rfl⟩, rfl, ?_, ?_⟩
  · rwa [htable name]
  · intro name'
    rw [Table.get?_insert, Table.get?_insert]
    exact if_congr Iff.rfl rfl (htable name')
  · simpa using hintervals.append_right intervals

/-- **Exchange.** A call that can be added behind another one can be added before it. -/
theorem Adds.exchange (h : Adds p f p₁) (h₂ : Adds p₁ g p₂) :
    ∃ q₁ q₂, Adds p g q₁ ∧ Adds q₁ f q₂ ∧ Alike p₂ q₂ := by
  obtain ⟨name, info, intervals, hname, hinfo, hlisted, htime, rfl⟩ := adds_iff.mp h
  obtain ⟨name', info', intervals', hname', hinfo', hlisted', htime', rfl⟩ := adds_iff.mp h₂
  rw [Table.get?_insert] at hinfo'
  have hlists : (p.intervals ++ intervals'.toArray ++ intervals.toArray).toList.Perm
      (p.intervals ++ intervals.toArray ++ intervals'.toArray).toList := by
    simpa using List.perm_append_comm.append_left p.intervals.toList
  -- Under one name the counts are exchanged, under two they do not see each other.
  by_cases hsame : name' = name
  · subst hsame
    rw [if_pos rfl] at hinfo'
    obtain ⟨info₁, hfirst, hsecond⟩ := hinfo.exchange hinfo'
    refine ⟨_, _, adds_iff.mpr ⟨name', info₁, intervals', hname', hfirst, hlisted', htime', rfl⟩,
      adds_iff.mpr ⟨name', info', intervals, hname, ?_, hlisted, htime, rfl⟩, rfl, ?_, hlists⟩
    · rwa [Table.get?_insert, if_pos rfl]
    · intro other
      simp only [Table.get?_insert]
      split <;> simp [*]
  · rw [if_neg hsame] at hinfo'
    refine ⟨_, _, adds_iff.mpr ⟨name', info', intervals', hname', hinfo', hlisted', htime', rfl⟩,
      adds_iff.mpr ⟨name, info, intervals, hname, ?_, hlisted, htime, rfl⟩, rfl, ?_, hlists⟩
    · rwa [Table.get?_insert, if_neg (Ne.symm hsame)]
    · intro other
      simp only [Table.get?_insert]
      by_cases hother : other = name
      · subst hother
        simp [Ne.symm hsame]
      · simp [hother]

/-! ## Adding calls one after the other -/

inductive AddsAll : Profile → List Finished → Profile → Prop
  | nil (p : Profile) : AddsAll p [] p
  | cons {p p₁ p' : Profile} {f : Finished} {fs : List Finished} (head : Adds p f p₁)
      (tail : AddsAll p₁ fs p') : AddsAll p (f :: fs) p'

theorem AddsAll.unique (h : AddsAll p fs p₁) (h' : AddsAll p fs p₂) : p₁ = p₂ := by
  induction h with
  | nil p =>
    cases h'
    rfl
  | cons head tail ih =>
    cases h' with
    | cons head' tail' =>
      obtain rfl := head.unique head'
      exact ih tail'

theorem AddsAll.alike (h : AddsAll p fs p') (hq : Alike p q) :
    ∃ q', AddsAll q fs q' ∧ Alike p' q' := by
  induction h generalizing q with
  | nil p => exact ⟨q, .nil q, hq⟩
  | cons head tail ih =>
    obtain ⟨q₁, hhead, hq₁⟩ := head.alike hq
    obtain ⟨q', htail, hq'⟩ := ih hq₁
    exact ⟨q', .cons hhead htail, hq'⟩

/-- **Calls can be added in every order**, and the profiles that they make are alike. -/
theorem AddsAll.perm (hperm : fs.Perm gs) (h : AddsAll p fs p') :
    ∃ q, AddsAll p gs q ∧ Alike p' q := by
  induction hperm generalizing p p' with
  | nil => exact ⟨p', h, .refl p'⟩
  | cons f _ ih =>
    cases h with
    | cons head tail =>
      obtain ⟨q, hq, halike⟩ := ih tail
      exact ⟨q, .cons head hq, halike⟩
  | swap f g fs =>
    cases h with
    | cons head tail =>
      cases tail with
      | cons second tail =>
        obtain ⟨q₁, q₂, hfirst, hsecond, halike⟩ := head.exchange second
        obtain ⟨q, hq, halike'⟩ := tail.alike halike
        exact ⟨q, .cons hfirst (.cons hsecond hq), halike'⟩
  | trans _ _ ih₁ ih₂ =>
    obtain ⟨q₁, hq₁, halike⟩ := ih₁ h
    obtain ⟨q₂, hq₂, halike'⟩ := ih₂ hq₁
    exact ⟨q₂, hq₂, halike.trans halike'⟩

end Profile

end GpuTrace
