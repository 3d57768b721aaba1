import GpuTrace.Proofs.Session.History

/-!
# Counted but not told — notices after faults

A step that stops with a fault keeps what it did to the kernel table, but gives no notice, and no
later step makes up for it. So a collector never tells of more calls than it counted, and it has
told of all of them exactly if no step stopped after it had counted one
(`notices_complete_iff`). A sweep that completes one call and stops at the next one is such a
step, and so is the teardown of a list that another call still needs
(`notices_short_resetInUse`).

The invariant is `Behind`: the notices and the calls that were never told of make up the calls
that were counted.
-/

namespace GpuTrace.Session

open Fallible Tracing

def counted (s : Session) : Nat :=
  (s.collector.map fun c => c.profile.counted).getD 0

def noticeCount (s : Session) : Nat :=
  s.journal.notices.size

/-- The action ends with an answer, or stops before it has counted a call. -/
def LosesNone (s : Session) (a : Action) : Prop :=
  (s.step a).1.isOk = true ∨ (next s a).counted = s.counted

instance (s : Session) (a : Action) : Decidable (LosesNone s a) :=
  inferInstanceAs (Decidable (_ ∨ _))

/-- The notices since the collector was made are `untold` calls behind its kernel table. -/
structure Behind (earlier untold : Nat) (c : Collector) (s : Session) : Prop where
  at_work : s.collector = some c
  wellFormed : s.RegistryWellFormed
  notifies : c.notifies = true
  balance : s.noticeCount + untold = earlier + s.counted

variable {s : Session} {c : Collector} {a : Action} {earlier untold : Nat}

theorem counted_of_collector (hc : s.collector = some c) : s.counted = c.profile.counted := by
  rw [counted, hc]
  rfl

theorem noticeCount_eq (s : Session) : s.noticeCount = (told s.journal).length := by
  simp [noticeCount, told]

/-- An answer keeps the distance, and a fault adds to it what was counted before. -/
theorem Behind.step (h : Behind earlier untold c s) (ha : a.isLifecycle = false) :
    ∃ untold' c', Behind earlier untold' c' (next s a) ∧ untold ≤ untold' ∧
      (untold' = untold ↔ LosesNone s a) := by
  have hwf : c.registry.WellFormed := h.wellFormed c h.at_work
  have hwf' : (next s a).RegistryWellFormed := h.wellFormed.next a
  have hcounted := counted_of_collector h.at_work
  have hnotices := noticeCount_eq s
  have hbalance := h.balance
  rcases step_of_ends (perform_took h.at_work hwf ha) with
    ⟨answer, hok, c', hc', htook⟩ | ⟨e, herror, c', hc', hbroke⟩
  · have htakes : c'.profile.counted = c.profile.counted + (s.finishes a).length :=
      htook.profile.counted
    have htold : told (next s a).journal = told s.journal ++
        if c.notifies then (s.finishes a).map (·.notice) else [] := told_of_took htook
    rw [if_pos h.notifies] at htold
    have hcounted' := counted_of_collector (s := next s a) hc'
    have hnotices' := noticeCount_eq (next s a)
    rw [htold, List.length_append, List.length_map] at hnotices'
    refine ⟨untold, c', ⟨hc', hwf', htook.notifies.trans h.notifies, by omega⟩, Nat.le_refl _, ?_⟩
    exact iff_of_true rfl (.inl (by rw [hok]; rfl))
  · have htakes : c.profile.counted ≤ c'.profile.counted := hbroke.counted
    have htold : told (next s a).journal = told s.journal := hbroke.told
    have hcounted' := counted_of_collector (s := next s a) hc'
    have hnotices' := noticeCount_eq (next s a)
    rw [htold] at hnotices'
    refine ⟨untold + (c'.profile.counted - c.profile.counted), c',
      ⟨hc', hwf', hbroke.notifies.trans h.notifies, by omega⟩, Nat.le_add_right _ _, ?_⟩
    have hloses : LosesNone s a ↔ (next s a).counted = s.counted := by
      unfold LosesNone
      rw [herror]
      simp [Except.isOk, Except.toBool]
    rw [hloses]
    omega

/-- The distance never gets smaller, and stays the same as long as no call is lost. -/
theorem Behind.run {actions : List Action} (h : Behind earlier untold c s)
    (hrun : ∀ a ∈ actions, a.isLifecycle = false) :
    ∃ untold' c', Behind earlier untold' c' (s.run actions) ∧ untold ≤ untold' ∧
      (untold' = untold ↔ Along next LosesNone s actions) := by
  induction actions generalizing s c untold with
  | nil => exact ⟨untold, c, h, Nat.le_refl _, iff_of_true rfl trivial⟩
  | cons a actions ih =>
    obtain ⟨ha, hlater⟩ := List.forall_mem_cons.mp hrun
    obtain ⟨mid, c₁, h₁, hle₁, hiff₁⟩ := h.step ha
    obtain ⟨last, c₂, h₂, hle₂, hiff₂⟩ := ih h₁ hlater
    refine ⟨last, c₂, h₂, Nat.le_trans hle₁ hle₂, ?_⟩
    show last = untold ↔ LosesNone s a ∧ Along next LosesNone (next s a) actions
    rw [← hiff₁, ← hiff₂]
    omega

theorem Creates.behind {driver : Driver} {now : UInt64} {before : List Action} {config : Config}
    {created : Session}
    (hborn : Creates config true ((Session.of driver now).run before) created) :
    ∃ c, Behind created.noticeCount 0 c created := by
  obtain ⟨c, h⟩ := hborn.remembers
  obtain ⟨c', hc', devices, -, hprofile⟩ := hborn.fresh
  obtain rfl : c' = c := Option.some.inj (hc'.symm.trans h.at_work)
  refine ⟨c', h.at_work, h.wellFormed, h.notifies_eq, ?_⟩
  rw [counted_of_collector h.at_work, hprofile]
  rfl

/-- **Notices fall behind at faults only.** At every point of every run of a collector that gives
notices, also one in which steps stop with faults, there are at most as many notices as calls in
the kernel table; and there are as many exactly if every step that stopped with a fault did so
before it had counted a call. -/
theorem notices_complete_iff (driver : Driver) (now : UInt64) (before actions : List Action)
    (config : Config) (created : Session)
    (hborn : Creates config true ((Session.of driver now).run before) created)
    (hrun : ∀ a ∈ actions, a.isLifecycle = false) :
    (created.run actions).noticeCount ≤ created.noticeCount + (created.run actions).counted ∧
      ((created.run actions).noticeCount = created.noticeCount + (created.run actions).counted ↔
        Along next LosesNone created actions) := by
  obtain ⟨c₀, h₀⟩ := hborn.behind
  obtain ⟨untold, c, h, -, hiff⟩ := h₀.run hrun
  have hbalance := h.balance
  rw [← hiff]
  constructor
  · omega
  · omega

def watching : Session :=
  (((Session.of .standard 7).run [.addDevice 1000 0, .newEvent, .newEvent]).step
    (.create .default true)).2

/-- Two commands with events of the application are submitted, and only the first one
completes. -/
def halfComplete : List Action :=
  [.exitListCreate ⟨50⟩ ⟨60⟩ ⟨1⟩ false (.ok ()),
    .enterAppend 0 ⟨50⟩ .barrier (some ⟨3⟩), .exitAppend 0 (.ok ()),
    .enterAppend 1 ⟨50⟩ .barrier (some ⟨5⟩), .exitAppend 1 (.ok ()),
    .enterExecute 0 ⟨70⟩ [⟨50⟩], .exitExecute 0 (.ok ()), .signal ⟨3⟩ ⟨10, 20⟩]

theorem watching_creates : Creates .default true
    ((Session.of .standard 7).run [.addDevice 1000 0, .newEvent, .newEvent]) watching :=
  .create (Prod.ext (by decide +kernel) rfl)

/-- A sweep tells of the call that it counts. -/
theorem notices_complete_iff_swept :
    (watching.run (halfComplete ++ [.processCalls])).noticeCount = 1 ∧
      (watching.run (halfComplete ++ [.processCalls])).counted = 1 := by
  have hcounted : (watching.run (halfComplete ++ [.processCalls])).counted = 1 := by
    decide +kernel
  have hnone : watching.noticeCount = 0 := by decide +kernel
  have hlosesNone : Along next LosesNone watching (halfComplete ++ [.processCalls]) := by
    decide +kernel
  obtain ⟨-, hiff⟩ := notices_complete_iff .standard 7 [.addDevice 1000 0, .newEvent, .newEvent]
    (halfComplete ++ [.processCalls]) .default watching watching_creates (by decide)
  have hequal := hiff.mpr hlosesNone
  rw [hcounted, hnone] at hequal
  exact ⟨hequal, hcounted⟩

/-- A reset sweeps too, but is refused, since the second call is pending. The first one is counted
then, and the application is never told of it. -/
theorem notices_short_resetInUse :
    Creates .default true
        ((Session.of .standard 7).run [.addDevice 1000 0, .newEvent, .newEvent]) watching ∧
      (∀ a ∈ halfComplete ++ [.exitListReset ⟨50⟩ (.ok ())], a.isLifecycle = false) ∧
      (watching.run (halfComplete ++ [.exitListReset ⟨50⟩ (.ok ())])).noticeCount = 0 ∧
      (watching.run (halfComplete ++ [.exitListReset ⟨50⟩ (.ok ())])).counted = 1 := by
  refine ⟨watching_creates, by decide, ?_, ?_⟩
  · decide +kernel
  · decide +kernel

end GpuTrace.Session
