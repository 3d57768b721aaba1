import GpuTrace.Profile.Basic
import GpuTrace.Proofs.Clock.Anchor
import GpuTrace.Proofs.Profile.Finish
import GpuTrace.Proofs.Profile.Statistics
import GpuTrace.Proofs.Table
import Mathlib.Data.List.Nodup

/-!
# History — a profile as the record of the calls that it took in

`Finished` is a call that completed, with its ticks placed on the host clock. A profile
`Reflects` a list of finished calls if its kernel table has the statistics of their durations
under each display name, and its interval list has one entry for each of them, in order,
that is `Recorded` for it.

Finishing a call takes in one (`finish_ends`), and a profile that reflects a history then
reflects the longer one (`Reflects.takes`). A call that stops with a fault may have been
counted before: `counted` never goes down.
-/

namespace GpuTrace

open Fallible

/-! ## Finished calls -/

/-- A completed call of a command, with its ticks placed on the host clock. -/
structure Finished where
  call : Call
  command : Command
  timestamp : KernelTimestamp
  window : HostWindow
  placed : timestamp.onHost command.frequency call.anchor = .ok window

namespace Finished

def of? (call : Call) (command : Command) (timestamp : KernelTimestamp) : Option Finished :=
  match h : timestamp.onHost command.frequency call.anchor with
  | .ok window => some ⟨call, command, timestamp, window, h⟩
  | .error _ => none

def notice (f : Finished) : KernelFinish where
  queue := f.call.queue
  id := callText f.command.kernelId f.call.callId
  name := f.command.props.name
  appended := f.command.appendTime
  submitted := f.call.anchor.hostTime
  started := f.window.start
  ended := f.window.stop

def duration (f : Finished) : UInt64 :=
  f.notice.ended - f.notice.started

def isShownAs (verbose : Bool) (name : String) (f : Finished) : Bool :=
  decide (f.command.props.displayName verbose = .ok name)

def durationsUnder (verbose : Bool) (name : String) (history : List Finished) : List UInt64 :=
  (history.filter (isShownAs verbose name)).map duration

variable {f : Finished}

theorem durationsUnder_ne_nil_iff {verbose : Bool} {name : String} {history : List Finished} :
    durationsUnder verbose name history ≠ [] ↔
      ∃ f ∈ history, f.command.props.displayName verbose = .ok name := by
  simp [durationsUnder, isShownAs, List.filter_eq_nil_iff]

theorem of?_eq_some {call : Call} {command : Command} {timestamp : KernelTimestamp}
    {window : HostWindow}
    (h : timestamp.onHost command.frequency call.anchor = .ok window) :
    of? call command timestamp = some ⟨call, command, timestamp, window, h⟩ := by
  unfold of?
  split
  · rename_i window' h'
    have hw : window' = window := Except.ok.inj (h'.symm.trans h)
    subst hw
    rfl
  · rename_i e h'
    rw [h] at h'
    cases h'

theorem of?_cases {call : Call} {command : Command} {timestamp : KernelTimestamp}
    (h : of? call command timestamp = some f) :
    f.call = call ∧ f.command = command ∧ f.timestamp = timestamp := by
  unfold of? at h
  split at h
  · cases h
    exact ⟨rfl, rfl, rfl⟩
  · cases h

/-- A call is on the host clock from its start until as long after as it ran. -/
theorem placed_cases (f : Finished) :
    f.call.anchor.deviceTime < f.timestamp.start ∧
      ∃ ran, kernelDuration f.timestamp.start f.timestamp.stop f.command.frequency = .ok ran ∧
        f.window.start.toNat + ran.toNat = f.window.stop.toNat := by
  obtain ⟨hlate, shift, ran, -, hran, -, hstop⟩ := KernelTimestamp.onHost_cases f.placed
  exact ⟨hlate, ran, hran, hstop⟩

theorem start_add_duration (f : Finished) :
    f.window.start.toNat + f.duration.toNat = f.window.stop.toNat := by
  obtain ⟨-, ran, -, hran⟩ := f.placed_cases
  have hle : f.window.start ≤ f.window.stop := by
    rw [UInt64.le_iff_toNat_le]
    omega
  have hle' := UInt64.le_iff_toNat_le.mp hle
  show f.window.start.toNat + (f.window.stop - f.window.start).toNat = f.window.stop.toNat
  rw [UInt64.toNat_sub_of_le _ _ hle]
  omega

theorem window_duration (f : Finished) : f.window.duration = .ok f.duration :=
  Checked.sub_eq_ok_iff.mpr f.start_add_duration.symm

theorem kernelDuration_eq (f : Finished) :
    kernelDuration f.timestamp.start f.timestamp.stop f.command.frequency = .ok f.duration := by
  obtain ⟨-, ran, hran, hsum⟩ := f.placed_cases
  have hd := f.start_add_duration
  rw [hran, UInt64.toNat.inj (a := ran) (b := f.duration) (by omega)]

end Finished

/-! ## Devices -/

/-- Work on a device belongs to a root and is spread over slices of it: one for each
sub-device if the whole of a partitioned root did it, and a single one otherwise. The count of
sub-devices and the place of one of them are 32-bit words. -/
inductive Attributed (roots : List (DeviceHandle × List DeviceHandle)) :
    DeviceHandle → DeviceHandle → List Nat → Prop
  | whole {root} (h : (root, []) ∈ roots) : Attributed roots root root [0]
  | partitioned {root subDevices} (h : (root, subDevices) ∈ roots) (some : subDevices ≠ []) :
      Attributed roots root root (List.range (subDevices.length % UInt32.size))
  | subDevice {device root subDevices place} (h : (root, subDevices) ∈ roots)
      (no_root : ∀ entry ∈ roots, entry.1 ≠ device) (at_place : subDevices[place]? = some device) :
      Attributed roots device root [place % UInt32.size]

/-- Work on a root that has sub-devices, not more than 32 bits can count, has one slice for each. -/
theorem Attributed.of_root {roots : List (DeviceHandle × List DeviceHandle)}
    {device root : DeviceHandle} {subDevices : List DeviceHandle} {slices : List Nat}
    (h : Attributed roots device root slices) (hdistinct : (roots.map Prod.fst).Nodup)
    (hroot : (device, subDevices) ∈ roots) (hsome : subDevices ≠ [])
    (hfits : subDevices.length < UInt32.size) :
    root = device ∧ slices = List.range subDevices.length := by
  cases h with
  | whole hwhole =>
    obtain ⟨-, rfl⟩ := Prod.mk.inj (List.inj_on_of_nodup_map hdistinct hwhole hroot rfl)
    exact absurd rfl hsome
  | partitioned hpartitioned =>
    obtain ⟨-, rfl⟩ := Prod.mk.inj (List.inj_on_of_nodup_map hdistinct hpartitioned hroot rfl)
    rw [Nat.mod_eq_of_lt hfits]
    exact ⟨rfl, rfl⟩
  | subDevice _ no_root => exact absurd rfl (no_root _ hroot)

namespace DeviceMap

/-- A map has the roots that it was made of. -/
theorem ofRoots_entries {roots : List (DeviceHandle × List DeviceHandle)} {m : DeviceMap}
    (h : ofRoots roots = .ok m) : m.roots.entries = roots := by
  have hends : ∀ (roots : List (DeviceHandle × List DeviceHandle)) (m₀ : DeviceMap),
      Ends (roots.forM fun root => insert root.1 root.2) m₀
        (fun _ m => m.roots.entries = m₀.roots.entries ++ roots) (fun _ _ => True) := by
    intro roots
    induction roots with
    | nil => exact fun m₀ => (List.append_nil _).symm
    | cons root roots ih =>
      intro m₀
      show Ends (insert root.1 root.2 >>= fun _ =>
        roots.forM fun root => insert root.1 root.2) _ _ _
      rw [ends_bind]
      unfold Ends insert
      cases hc : m₀.roots.contains root.1 with
      | true => trivial
      | false =>
        have habsent := Table.contains_eq_false_iff.mp hc
        refine (ih _).imp (fun _ m hm => ?_) fun _ _ _ => trivial
        rw [hm, Table.entries_insert_of_absent _ habsent, List.append_assoc]
        rfl
  have hroots := hends roots empty
  unfold ofRoots EStateM.run at h
  split at h
  · rename_i hok
    cases h
    exact hroots.of_ok hok
  · cases h

theorem ownerOf_eq_some {device root : DeviceHandle} {place : Nat} :
    ∀ {roots : List (DeviceHandle × List DeviceHandle)},
      ownerOf device roots = some (root, place) →
      ∃ subDevices, (root, subDevices) ∈ roots ∧ subDevices[place]? = some device
  | (root', subDevices) :: rest, h => by
    unfold ownerOf at h
    split at h
    · rename_i found
      cases h
      obtain ⟨hlt, hdevice, -⟩ := List.idxOf?_eq_some_iff.mp found
      exact ⟨subDevices, List.mem_cons_self, by rw [List.getElem?_eq_getElem hlt, hdevice]⟩
    · obtain ⟨subs, hmem, hplace⟩ := ownerOf_eq_some h
      exact ⟨subs, List.mem_cons_of_mem _ hmem, hplace⟩

/-- Work is attributed to the slices that the map of the roots answers. -/
theorem attributed_of_slices {roots : List (DeviceHandle × List DeviceHandle)} {m : DeviceMap}
    (hm : ofRoots roots = .ok m) {device root : DeviceHandle} {slices : List Nat}
    (h : m.slices device = .ok (root, slices)) : Attributed roots device root slices := by
  have hentries := ofRoots_entries hm
  unfold DeviceMap.slices at h
  cases hroot : m.roots.get? device with
  | some subDevices =>
    have hmem := Table.mem_entries_iff.mpr hroot
    rw [hentries] at hmem
    rw [hroot] at h
    cases subDevices with
    | nil =>
      cases h
      exact .whole hmem
    | cons sub subDevices =>
      cases h
      exact .partitioned hmem (List.cons_ne_nil _ _)
  | none =>
    have hnot := Table.not_mem_keys hroot
    rw [hentries] at hnot
    rw [hroot] at h
    dsimp only at h
    split at h
    · rename_i howner
      cases h
      rw [hentries] at howner
      obtain ⟨subDevices, hmem, hplace⟩ := ownerOf_eq_some howner
      refine .subDevice hmem ?_ hplace
      intro entry hentry hdevice
      exact hnot (List.mem_map.mpr ⟨entry, hentry, hdevice⟩)
    · cases h

end DeviceMap

/-! ## Taking in a call -/

/-- The window of the call on a clock: as long as the call ran, from its start there. On the
host clock it is the one in the notice. -/
def Finished.RunsAt (f : Finished) (domain : ClockDomain) (start stop : UInt64) : Prop :=
  start.toNat + f.duration.toNat = stop.toNat ∧
    match domain with
    | .host => start = f.notice.started ∧ stop = f.notice.ended
    | .device => ticksToNs f.timestamp.start f.command.frequency = .ok start

/-- The interval that is recorded for a finished call: it carries the display name, belongs to
the root that owns the device of the command, and has the same window on all slices of it. -/
structure Finished.Recorded (verbose : Bool) (domain : ClockDomain)
    (roots : List (DeviceHandle × List DeviceHandle)) (f : Finished) (i : KernelInterval) :
    Prop where
  named : f.command.props.displayName verbose = .ok i.kernelName
  domain_eq : i.domain = domain
  attributed : Attributed roots f.command.device i.device (i.windows.map (·.subDevice))
  shared : ∃ start stop, f.RunsAt domain start stop ∧
    ∀ w ∈ i.windows, w.start = start ∧ w.stop = stop

theorem Finished.recorded_of_root {verbose : Bool} {domain : ClockDomain}
    {roots : List (DeviceHandle × List DeviceHandle)} {device : DeviceHandle}
    {subDevices : List DeviceHandle} {finished : List Finished} {intervals : List KernelInterval}
    (h : List.Forall₂ (Finished.Recorded verbose domain roots) finished intervals)
    (hdevice : ∀ f ∈ finished, f.command.device = device)
    (hdistinct : (roots.map Prod.fst).Nodup) (hroot : (device, subDevices) ∈ roots)
    (hsome : subDevices ≠ []) (hfits : subDevices.length < UInt32.size) :
    ∀ i ∈ intervals,
      i.device = device ∧ i.windows.map (·.subDevice) = List.range subDevices.length := by
  induction h with
  | nil => exact List.forall_mem_nil _
  | cons hrecorded _ ih =>
    obtain ⟨hfirst, hothers⟩ := List.forall_mem_cons.mp hdevice
    have hattributed := hrecorded.attributed
    rw [hfirst] at hattributed
    exact List.forall_mem_cons.mpr
      ⟨hattributed.of_root hdistinct hroot hsome hfits, ih hothers⟩

namespace Profile

variable {p p' : Profile} {f : Finished} {history : List Finished}
  {roots : List (DeviceHandle × List DeviceHandle)}

def counted (p : Profile) : Nat :=
  (p.kernels.values.map fun k => k.callCount.toNat).sum

theorem runsAt_of_windowIn {domain : ClockDomain} {start stop : UInt64}
    (h : windowIn domain f.window f.timestamp f.command.frequency = .ok (start, stop)) :
    f.RunsAt domain start stop := by
  cases domain with
  | host =>
    cases h
    exact ⟨f.start_add_duration, rfl, rfl⟩
  | device =>
    unfold windowIn KernelTimestamp.onDevice at h
    rw [f.kernelDuration_eq] at h
    cases hstart : ticksToNs f.timestamp.start f.command.frequency with
    | error e =>
      simp only [hstart, bind, Except.bind] at h
      cases h
    | ok first =>
      simp only [hstart, bind, Except.bind] at h
      split at h
      · cases h
      · rename_i last hlast
        cases h
        exact ⟨Checked.add_eq_ok_iff.mp hlast, hstart⟩

/-- The call was counted under its display name and, if intervals are recorded, put at the end
of the interval list. -/
def Takes (p : Profile) (f : Finished) (p' : Profile) : Prop :=
  ∃ name info intervals, f.command.props.displayName p.verbose = .ok name ∧
    KernelInfo.Follows (p.kernels.get? name) f.duration info ∧
    (if p.recordsIntervals then
      ∃ i, intervals = p.intervals.push i ∧ ∀ roots, DeviceMap.ofRoots roots = .ok p.devices →
        f.Recorded p.verbose p.domain roots i
    else intervals = p.intervals) ∧
    p' = { p with kernels := p.kernels.insert name info, intervals }

theorem sum_insert (measure : KernelInfo → Nat) (table : Table String KernelInfo) (name : String)
    (info : KernelInfo) :
    ((table.insert name info).values.map measure).sum + (table.get? name).elim 0 measure =
      (table.values.map measure).sum + measure info := by
  have hsum : ∀ {ks ks' : List KernelInfo}, ks.Perm ks' →
      (ks.map measure).sum = (ks'.map measure).sum := fun h => (h.map _).sum_eq
  rw [hsum Table.values_insert_perm]
  cases hold : table.get? name with
  | none =>
    rw [Table.erase_of_absent hold]
    simp [Nat.add_comm]
  | some old =>
    rw [hsum (Table.values_perm hold)]
    simp only [List.map_cons, List.sum_cons, Option.elim_some]
    omega

theorem counted_insert (name : String) (info : KernelInfo) :
    { p with kernels := p.kernels.insert name info }.counted +
      KernelInfo.calls (p.kernels.get? name) = p.counted + info.callCount.toNat := by
  have hcalls : KernelInfo.calls (p.kernels.get? name) =
      (p.kernels.get? name).elim 0 fun k => k.callCount.toNat := by
    cases p.kernels.get? name <;> rfl
  rw [hcalls]
  exact sum_insert (fun k => k.callCount.toNat) p.kernels name info

theorem recordInfo_ends (name : String) (duration : UInt64) :
    Ends (recordInfo name duration) p
      (fun _ p' => ∃ info, KernelInfo.Follows (p.kernels.get? name) duration info ∧
        p' = { p with kernels := p.kernels.insert name info })
      (fun _ p' => p'.counted = p.counted) := by
  unfold Ends recordInfo
  cases hold : p.kernels.get? name with
  | none => exact ⟨_, KernelInfo.first_follows duration, rfl⟩
  | some old =>
    have hrecord := KernelInfo.record_ends (k := old) duration
    dsimp only
    cases hr : KernelInfo.record duration old with
    | ok _ info => exact ⟨info, hrecord.of_ok hr, rfl⟩
    | error e info =>
      have hcount := counted_insert (p := p) name info
      rw [hold, hrecord.of_error hr] at hcount
      exact Nat.add_right_cancel hcount

theorem recordInterval_ends {name : String} {start stop : UInt64}
    (hname : f.command.props.displayName p.verbose = .ok name)
    (hwindow : windowIn p.domain f.window f.timestamp f.command.frequency = .ok (start, stop)) :
    Ends (recordInterval name f.command.device start stop) p
      (fun _ p' => ∃ i, p' = { p with intervals := p.intervals.push i } ∧
        ∀ roots, DeviceMap.ofRoots roots = .ok p.devices →
          f.Recorded p.verbose p.domain roots i)
      (fun _ p' => p' = p) := by
  unfold Ends recordInterval
  cases hslices : p.devices.slices f.command.device with
  | error e => rfl
  | ok found =>
    obtain ⟨root, slices⟩ := found
    refine ⟨_, rfl, fun roots hroots =>
      ⟨hname, rfl, ?_, start, stop, runsAt_of_windowIn hwindow, ?_⟩⟩
    · simpa [Function.comp_def] using DeviceMap.attributed_of_slices hroots hslices
    · simp

/-- Finishing a call takes it in and makes its notice. A fault on the way may leave the call
counted. -/
theorem finish_ends (call : Call) (command : Command) (timestamp : KernelTimestamp) :
    Ends (finish call command timestamp) p
      (fun finish p' => ∃ f, Finished.of? call command timestamp = some f ∧ finish = f.notice ∧
        Takes p f p')
      (fun _ p' => p.counted ≤ p'.counted) := by
  unfold finish
  simp only [ends_bind, ends_get, ends_lift]
  cases hplaced : timestamp.onHost command.frequency call.anchor with
  | error e => exact Nat.le_refl _
  | ok window =>
    dsimp only
    cases hname : command.props.displayName p.verbose with
    | error e => exact Nat.le_refl _
    | ok name =>
      let f : Finished := ⟨call, command, timestamp, window, hplaced⟩
      have hf : Finished.of? call command timestamp = some f := Finished.of?_eq_some hplaced
      dsimp only
      rw [f.window_duration]
      dsimp only
      refine (recordInfo_ends name f.duration).imp ?_ fun _ p' h => h.ge
      rintro - _ ⟨info, hinfo, rfl⟩
      have hcounted : p.counted ≤ { p with kernels := p.kernels.insert name info }.counted := by
        have := counted_insert (p := p) name info
        have := hinfo.calls
        omega
      by_cases hrecords : p.recordsIntervals = true
      · rw [if_pos hrecords]
        simp only [ends_bind, ends_lift]
        cases hwindow : windowIn p.domain f.window timestamp command.frequency with
        | error e => exact hcounted
        | ok found =>
          refine (recordInterval_ends (p := { p with kernels := p.kernels.insert name info })
            hname hwindow).imp ?_ ?_
          · rintro - _ ⟨i, rfl, hi⟩
            split
            · exact hcounted
            · exact ⟨f, hf, rfl, name, info, _, hname, hinfo,
                (if_pos hrecords).mpr ⟨i, rfl, hi⟩, rfl⟩
          · rintro e _ rfl
            exact hcounted
      · rw [if_neg hrecords]
        split
        · exact hcounted
        · exact ⟨f, hf, rfl, name, info, _, hname, hinfo, (if_neg hrecords).mpr rfl, rfl⟩

inductive TakesAll : Profile → List Finished → Profile → Prop
  | nil (p : Profile) : TakesAll p [] p
  | cons {p p₁ p' : Profile} {f : Finished} {fs : List Finished} (head : Takes p f p₁)
      (tail : TakesAll p₁ fs p') : TakesAll p (f :: fs) p'

/-! ## What a profile stands for -/

/-- The profile is the record of these finished calls, in order: each display name has the
statistics of its calls, and each call has an interval if intervals are recorded. -/
structure Reflects (roots : List (DeviceHandle × List DeviceHandle)) (p : Profile)
    (history : List Finished) : Prop where
  mapped : DeviceMap.ofRoots roots = .ok p.devices
  table : ∀ name, KernelInfo.Tallies (p.kernels.get? name)
    (Finished.durationsUnder p.verbose name history)
  intervals : if p.recordsIntervals then
      List.Forall₂ (Finished.Recorded p.verbose p.domain roots) history p.intervals.toList
    else p.intervals = #[]

theorem Takes.counted (h : Takes p f p') : p'.counted = p.counted + 1 := by
  obtain ⟨name, info, intervals, -, hinfo, -, rfl⟩ := h
  have hcount : Profile.counted { p with kernels := p.kernels.insert name info, intervals } +
      KernelInfo.calls (p.kernels.get? name) = p.counted + info.callCount.toNat :=
    counted_insert name info
  rw [hinfo.calls] at hcount
  omega

theorem TakesAll.counted {calls : List Finished} (h : TakesAll p calls p') :
    p'.counted = p.counted + calls.length := by
  induction h with
  | nil p => rfl
  | cons head tail ih =>
    rw [ih, head.counted, List.length_cons]
    omega

theorem TakesAll.settings {calls : List Finished} (h : TakesAll p calls p') :
    p'.verbose = p.verbose ∧ p'.recordsIntervals = p.recordsIntervals ∧ p'.domain = p.domain := by
  induction h with
  | nil p => exact ⟨rfl, rfl, rfl⟩
  | cons head tail ih =>
    obtain ⟨name, info, intervals, -, -, -, rfl⟩ := head
    exact ih

theorem reflects_of {devices : DeviceMap} (hm : DeviceMap.ofRoots roots = .ok devices)
    (verbose recordsIntervals : Bool) (domain : ClockDomain) :
    (Profile.of devices verbose recordsIntervals domain).Reflects roots [] where
  mapped := hm
  table _ := rfl
  intervals := by
    cases recordsIntervals with
    | false => rfl
    | true => exact .nil

/-- A call that is taken in is one more call of the history. -/
theorem Reflects.takes (h : p.Reflects roots history) (ht : Takes p f p') :
    p'.Reflects roots (history ++ [f]) := by
  obtain ⟨name, info, intervals, hname, hinfo, hintervals, rfl⟩ := ht
  refine ⟨h.mapped, fun name' => ?_, ?_⟩
  · show KernelInfo.Tallies ((p.kernels.insert name info).get? name') _
    have htable := h.table name'
    rw [Table.get?_insert]
    unfold Finished.durationsUnder at htable ⊢
    by_cases hn : name' = name
    · subst hn
      have hshown : f.isShownAs p.verbose name' = true := decide_eq_true hname
      simpa [hshown, KernelInfo.Tallies] using hinfo.tallies _ htable
    · have hshown : f.isShownAs p.verbose name' = false := by
        refine decide_eq_false fun hname' => hn ?_
        exact Except.ok.inj (hname'.symm.trans hname)
      simpa [hshown, hn] using htable
  · have hold := h.intervals
    dsimp only at hintervals ⊢
    by_cases hrecords : p.recordsIntervals = true
    · rw [if_pos hrecords] at hold hintervals ⊢
      obtain ⟨i, rfl, hi⟩ := hintervals
      rw [Array.toList_push]
      exact List.rel_append hold (.cons (hi roots h.mapped) .nil)
    · rw [if_neg hrecords] at hold hintervals ⊢
      exact hintervals.trans hold

theorem Reflects.takesAll {calls : List Finished} (h : p.Reflects roots history)
    (ht : TakesAll p calls p') : p'.Reflects roots (history ++ calls) := by
  induction ht generalizing history with
  | nil p => rwa [List.append_nil]
  | cons head tail ih =>
    rw [List.append_cons]
    exact ih (h.takes head)

end Profile

end GpuTrace
