import GpuTrace.Proofs.Collector.Ids
import GpuTrace.Proofs.Session.Deed
import GpuTrace.Proofs.Session.Turn

/-!
# Ids along a run

An append in flight knows whether its list is immediate. As long as no list is destroyed under such
an append, the list that the append ends on is the one that it began on, and the ids of all lists
follow their commands after every step, also after one that stopped (`Bookkept.next`).

`issued` are the kernel ids that the steps of a run hand out. They are strictly increasing over all
lists (`issued_increasing`), whatever is freed in between.
-/

namespace GpuTrace.Session

open Fallible Tracing

variable {s s' : Session} {a : Action}

/-! ## Outstanding appends -/

def mode (s : Session) (list : CommandListHandle) : Option Bool :=
  s.collector.bind (·.registry.mode list)

/-- A registered list that an append is in flight for stays registered. -/
def Spares (s : Session) (a : Action) : Prop :=
  ∀ append ∈ s.appends.values, (s.mode append.list).isSome = true →
    ((next s a).mode append.list).isSome = true

instance (s : Session) (a : Action) : Decidable (Spares s a) :=
  inferInstanceAs (Decidable (∀ append ∈ s.appends.values, _ → _))

/-- The ids follow the commands, and each append in flight has an anchor if its list is
immediate. -/
structure Bookkept (s : Session) : Prop where
  registry : ∀ c, s.collector = some c → c.registry.Bookkept
  marked : ∀ token append, s.appends.get? token = some append →
    ∃ c, s.collector = some c ∧ Marked c.registry append

theorem bookkept_of (driver : Driver) (now : UInt64) : (of driver now).Bookkept where
  registry := nofun
  marked := nofun

namespace Bookkept

variable (h : s.Bookkept)

include h

theorem marked_at {c : Collector} (hc : s.collector = some c) {token : Nat}
    {append : InFlightAppend} (found : s.appends.get? token = some append) :
    Marked c.registry append := by
  obtain ⟨c', hc', hmarked⟩ := h.marked token append found
  rw [hc] at hc'
  cases hc'
  exact hmarked

theorem same_modes {c c' : Collector} (hc : s.collector = some c) (hc' : s'.collector = some c')
    (hregistry : c'.registry.Bookkept)
    (hmode : ∀ list, c'.registry.mode list = c.registry.mode list)
    (happends : ∀ token append, s'.appends.get? token = some append →
      s.appends.get? token = some append) : s'.Bookkept where
  registry c₁ hc₁ := by
    rw [hc'] at hc₁
    cases hc₁
    exact hregistry
  marked token append found := by
    obtain ⟨hmarked, uncalled⟩ := h.marked_at hc (happends token append found)
    exact ⟨c', hc', (hmode append.list).trans hmarked, uncalled⟩

theorem same (hcollector : s'.collector = s.collector)
    (happends : ∀ token append, s'.appends.get? token = some append →
      s.appends.get? token = some append) : s'.Bookkept where
  registry c hc := h.registry c (hcollector ▸ hc)
  marked token append found := by
    obtain ⟨c, hc, hmarked⟩ := h.marked token append (happends token append found)
    exact ⟨c, hcollector ▸ hc, hmarked⟩

/-- A collector that takes the place of another has no lists, so no append was in flight. -/
theorem aside (haside : Aside s s')
    (hspares : ∀ append ∈ s.appends.values, (s.mode append.list).isSome = true →
      (s'.mode append.list).isSome = true) : s'.Bookkept where
  registry c hc := by
    rcases haside.collector c hc with hnew | hold
    · rw [hnew]
      exact Registry.bookkept_empty
    · exact h.registry c hold
  marked token append found := by
    rw [haside.appends] at found
    obtain ⟨c, hc, hmarked⟩ := h.marked token append found
    have hvalue : append ∈ s.appends.values :=
      List.mem_map.mpr ⟨(token, append), Table.mem_entries_iff.mpr found, rfl⟩
    have hregistered : (s.mode append.list).isSome = true := by
      rw [mode, hc, Option.bind_some, hmarked.mode]
      rfl
    have hregistered' := hspares append hvalue hregistered
    obtain ⟨c', hc'⟩ : ∃ c', s'.collector = some c' := by
      rcases Option.eq_none_or_eq_some s'.collector with hnone | hsome
      · rw [mode, hnone] at hregistered'
        cases hregistered'
      · exact hsome
    rcases haside.collector c' hc' with hnew | hold
    · rw [mode, hc', Option.bind_some, hnew] at hregistered'
      cases hregistered'
    · rw [hc] at hold
      cases hold
      exact ⟨c, hc', hmarked⟩

theorem upkeep {c : Collector} {t : Tracing} (hc : s.collector = some c)
    (hupkeep : Registry.Upkeep c.registry t.registry)
    (hspares : ∀ append ∈ s.appends.values, (s.mode append.list).isSome = true →
      ((s.after t).mode append.list).isSome = true) : (s.after t).Bookkept where
  registry c' hc' := by
    cases hc'
    exact hupkeep.retains.bookkept (h.registry c hc)
  marked token append found := by
    obtain ⟨hmode, uncalled⟩ := h.marked_at hc found
    have hvalue : append ∈ s.appends.values :=
      List.mem_map.mpr ⟨(token, append), Table.mem_entries_iff.mpr found, rfl⟩
    have hregistered : (s.mode append.list).isSome = true := by
      rw [mode, hc, Option.bind_some, hmode]
      rfl
    obtain ⟨after, hafter⟩ := Option.isSome_iff_exists.mp (hspares append hvalue hregistered)
    refine ⟨t.collector, rfl, ?_, uncalled⟩
    obtain rfl := hupkeep.mode hmode hafter
    exact hafter

theorem turn {result : Except Fault Answer} (hturn : Turn s a result s')
    (hspares : ∀ append ∈ s.appends.values, (s.mode append.list).isSome = true →
      (s'.mode append.list).isSome = true) : s'.Bookkept := by
  cases hturn with
  | idle _ appends_from =>
    rcases appends_from with rfl | ⟨token, rfl⟩
    · exact h.same rfl fun _ _ found => found
    · exact h.same rfl fun _ _ => Table.get?_of_erase
  | hooked _ at_work _ lists => exact h.upkeep at_work lists hspares
  | @begun token list op signal c append event t at_work enter =>
    have hmarked := (enterAppend_marks list op signal).of_ok enter append rfl
    obtain ⟨driver, warnings, -, rfl⟩ := (Tracing.enterAppend_within list op signal _).of_ok enter
    refine ⟨fun c' hc' => ?_, fun token' append' found => ?_⟩
    · cases hc'
      exact h.registry c at_work
    · refine ⟨_, rfl, ?_⟩
      dsimp only at found
      rw [Table.get?_insert] at found
      split at found
      · cases found
        exact hmarked
      · exact h.marked_at at_work found
  | @unbegun token list op signal result c _ at_work =>
    obtain ⟨driver, warnings, -, hfinal⟩ :=
      (Tracing.enterAppend_within list op signal).final (s.tracing c)
    rw [hfinal]
    exact h.same_modes at_work rfl (h.registry c at_work) (fun _ => rfl) fun _ _ found => found
  | @ended token r append result c _ at_work found =>
    have hissues := exitAppend_issues (t := s.tracing c) (h.marked_at at_work found) r
    exact h.same_modes at_work rfl (hissues.bookkept (h.registry c at_work)) hissues.mode
      fun _ _ => Table.get?_of_erase
  | planned at_work => exact h.same rfl fun _ _ found => found
  | @executed token r submit result c _ at_work =>
    have hissues := exitExecute_issues (t := s.tracing c) submit r
    exact h.same_modes at_work rfl (hissues.bookkept (h.registry c at_work)) hissues.mode
      fun _ _ found => found

theorem next (hspares : Spares s a) : (next s a).Bookkept := by
  cases hout : a.isOutside with
  | true =>
    obtain ⟨driver, now, -, hs⟩ := step_within (s := s) (outside_within a hout)
    refine h.same ?_ ?_
    · rw [Session.next, hs]
    · rw [Session.next, hs]
      exact fun _ _ found => found
  | false =>
    cases hlife : a.isLifecycle with
    | true => exact h.aside (step_within (lifecycle_aside hlife)) hspares
    | false => exact h.turn (step_turn hout hlife) hspares

end Bookkept

/-! ## Ids that are handed out -/

def ids (s : Session) : List Nat :=
  s.collector.elim [] (·.registry.ids)

def issued : Session → List Action → List Nat
  | _, [] => []
  | s, a :: actions => (next s a).ids.filter (· ∉ s.ids) ++ issued (next s a) actions

def nextId (s : Session) : Nat :=
  s.collector.elim 0 (·.registry.nextKernelId)

structure Numbers (s s' : Session) : Prop where
  ids : ∀ id ∈ s'.ids, id ∈ s.ids ∨ id = s.nextId ∧ id < s'.nextId
  next : s.nextId ≤ s'.nextId

theorem numbers_of_registry
    (h : s'.collector.map (·.registry) = s.collector.map (·.registry)) : Numbers s s' := by
  have hids : s'.ids = s.ids := by
    unfold Session.ids
    cases hc : s.collector <;> cases hc' : s'.collector <;> simp_all
  have hnext : s'.nextId = s.nextId := by
    unfold nextId
    cases hc : s.collector <;> cases hc' : s'.collector <;> simp_all
  exact ⟨fun id hid => .inl (hids ▸ hid), Nat.le_of_eq hnext.symm⟩

theorem numbers_of {c c' : Collector} (hc : s.collector = some c) (hc' : s'.collector = some c')
    (hids : ∀ id ∈ c'.registry.ids, id ∈ c.registry.ids ∨
      id = c.registry.nextKernelId ∧ id < c'.registry.nextKernelId)
    (hnext : c.registry.nextKernelId ≤ c'.registry.nextKernelId) : Numbers s s' := by
  have hold : s.ids = c.registry.ids ∧ s.nextId = c.registry.nextKernelId := by
    simp [ids, nextId, hc]
  have hnew : s'.ids = c'.registry.ids ∧ s'.nextId = c'.registry.nextKernelId := by
    simp [ids, nextId, hc']
  constructor
  · rw [hold.1, hold.2, hnew.1, hnew.2]
    exact hids
  · rw [hold.2, hnew.2]
    exact hnext

theorem Turn.numbers {result : Except Fault Answer} (hturn : Turn s a result s')
    (h : s.Bookkept) : Numbers s s' := by
  cases hturn with
  | idle => exact numbers_of_registry rfl
  | hooked _ at_work _ lists =>
    exact numbers_of at_work rfl (fun id hid => .inl (lists.retains.ids_subset hid))
      lists.retains.1
  | begun at_work enter =>
    obtain ⟨driver, warnings, -, rfl⟩ := (Tracing.enterAppend_within _ _ _ _).of_ok enter
    exact numbers_of_registry (by rw [at_work]; rfl)
  | @unbegun token list op signal result c _ at_work =>
    obtain ⟨driver, warnings, -, hfinal⟩ :=
      (Tracing.enterAppend_within list op signal).final (s.tracing c)
    rw [hfinal]
    exact numbers_of_registry (by rw [at_work]; rfl)
  | @ended token r append result c _ at_work found =>
    have hissues := exitAppend_issues (t := s.tracing c) (h.marked_at at_work found) r
    exact numbers_of at_work rfl hissues.ids hissues.next
  | planned => exact numbers_of_registry rfl
  | @executed token r submit result c _ at_work =>
    have hissues := exitExecute_issues (t := s.tracing c) submit r
    exact numbers_of at_work rfl hissues.ids hissues.next

theorem Bookkept.numbers (h : s.Bookkept) (hlife : a.isLifecycle = false) :
    Numbers s (Session.next s a) := by
  cases hout : a.isOutside with
  | true =>
    obtain ⟨driver, now, -, hs⟩ := step_within (s := s) (outside_within a hout)
    exact numbers_of_registry (by rw [Session.next, hs])
  | false => exact (step_turn hout hlife).numbers h

theorem Bookkept.below (h : s.Bookkept) : ∀ id ∈ s.ids, id < s.nextId := by
  unfold ids nextId
  cases hc : s.collector with
  | none => exact nofun
  | some c => exact (h.registry c hc).below

theorem Bookkept.nodup_ids (h : s.Bookkept) : s.ids.Nodup := by
  unfold ids
  cases hc : s.collector with
  | none => exact .nil
  | some c => exact (h.registry c hc).nodup_ids

/-- What a step hands out is the next kernel id, if anything. -/
theorem Numbers.eq_nextId (h : Numbers s s') {id : Nat}
    (hid : id ∈ s'.ids.filter (· ∉ s.ids)) : id = s.nextId ∧ id < s'.nextId := by
  obtain ⟨hnew, hfresh⟩ := List.mem_filter.mp hid
  exact (h.ids id hnew).resolve_left (of_decide_eq_true hfresh)

/-- Kernel ids are handed out in order, and none is handed out that is or was in use. -/
theorem issued_increasing (h : s.Bookkept) {actions : List Action}
    (hspares : Along Session.next Spares s actions)
    (hlife : ∀ a ∈ actions, a.isLifecycle = false) :
    (issued s actions).Pairwise (· < ·) ∧ ∀ id ∈ issued s actions, s.nextId ≤ id := by
  induction actions generalizing s with
  | nil => exact ⟨.nil, nofun⟩
  | cons a actions ih =>
    have hnext := h.next hspares.1
    have hnumbers : Numbers s (next s a) := h.numbers (hlife a List.mem_cons_self)
    obtain ⟨hincreasing, hbehind⟩ :=
      ih hnext hspares.2 fun b hb => hlife b (List.mem_cons_of_mem a hb)
    constructor
    · refine List.pairwise_append.mpr ⟨?_, hincreasing, fun id hid id' hid' => ?_⟩
      · -- One step hands out one id, so there are no two to compare.
        refine (hnext.nodup_ids.filter _).imp_of_mem fun {id id'} hid hid' hne => ?_
        have hsame := (hnumbers.eq_nextId hid).1.trans (hnumbers.eq_nextId hid').1.symm
        exact absurd hsame hne
      · exact Nat.lt_of_lt_of_le (hnumbers.eq_nextId hid).2 (hbehind id' hid')
    · intro id hid
      rcases List.mem_append.mp hid with hnew | hlater
      · exact Nat.le_of_eq (hnumbers.eq_nextId hnew).1.symm
      · exact Nat.le_trans hnumbers.next (hbehind id hlater)

/-! ## All runs -/

theorem exitExecute_fills {token : Nat} {submit : SubmitToken}
    (found : s.submits.get? token = some submit) :
    Ends (Action.exitExecute token (.ok ())).perform s
      (fun answer s' => answer = .done → ∃ c, s'.collector = some c ∧
        ∀ entry ∈ submit.anchors, Filled c.registry entry.1)
      (fun _ _ => True) := by
  have hcontains : s.submits.contains token = true := by simp [Table.contains, found]
  refine ends_bind.mpr ?_
  simp only [ends_get, hcontains, Bool.not_true, Bool.false_eq_true, if_false]
  unfold Session.exitExecute
  simp only [ends_bind, ends_get, found, ends_modify]
  rw [ends_trace]
  cases hc : s.collector with
  | none => exact nofun
  | some c =>
    refine (exitExecute_executes submit (.ok ())).imp ?_ fun _ _ _ => trivial
    rintro _ t ⟨-, hfilled⟩ -
    exact ⟨t.collector, rfl, hfilled rfl⟩

/-- **Id bookkeeping follows the commands.** In a run that destroys no list under an append, after
every step, kernel ids and call ids of each list are read off its commands, and no two lists share
a kernel id. From there on kernel ids are handed out strictly increasing over all lists, behind all
that are in use. An execution that answers gives each command of its deferred lists a call id. -/
theorem ids_follow_commands (driver : Driver) (now : UInt64) (actions : List Action)
    (spares : Along next Spares (of driver now) actions) :
    let s := (of driver now).run actions
    (∀ c, s.collector = some c → c.registry.Bookkept) ∧
    (∀ later, Along next Spares s later → (∀ a ∈ later, a.isLifecycle = false) →
      (issued s later).Pairwise (· < ·) ∧
        ∀ id ∈ issued s later, ∀ old ∈ s.ids, old < id) ∧
    (∀ token submit, s.submits.get? token = some submit →
      (s.step (.exitExecute token (.ok ()))).1 = .ok .done →
      ∃ c, (next s (.exitExecute token (.ok ()))).collector = some c ∧
        ∀ entry ∈ submit.anchors, Filled c.registry entry.1) := by
  intro s
  have h : s.Bookkept := spares.run (bookkept_of driver now) fun _ _ hspares h => h.next hspares
  refine ⟨h.registry, fun later hlater hlife => ?_, fun token submit found hok => ?_⟩
  · obtain ⟨hincreasing, hbehind⟩ := issued_increasing h hlater hlife
    exact ⟨hincreasing, fun id hid old hold => Nat.lt_of_lt_of_le (h.below old hold)
      (hbehind id hid)⟩
  · exact of_step (exitExecute_fills found) (Prod.ext hok rfl) rfl

/-- Appends to both kinds of lists, of which one stops because its list is not registered; the
immediate list can not be destroyed, since its call is pending. Both lists are about to be
executed. -/
def bookkeeping : List Action :=
  [.addDevice 1000 0, .create .default true, .exitListCreate ⟨50⟩ ⟨60⟩ ⟨1⟩ false (.ok ()),
    .exitListCreate ⟨51⟩ ⟨60⟩ ⟨1⟩ true (.ok ()), .enterAppend 0 ⟨50⟩ .barrier none,
    .enterAppend 1 ⟨51⟩ .barrier none, .enterAppend 2 ⟨52⟩ .barrier none,
    .exitAppend 1 (.ok ()), .exitAppend 0 (.ok ()), .exitListDestroy ⟨51⟩ (.ok ()),
    .enterExecute 0 ⟨70⟩ [⟨50⟩, ⟨51⟩]]

theorem ids_follow_commands_stopped :
    let s := (of .standard 7).run bookkeeping
    let later := [.enterAppend 3 ⟨50⟩ .barrier none, .enterAppend 4 ⟨51⟩ .barrier none,
      .exitAppend 4 (.ok ()), .exitAppend 3 (.ok ())]
    s.ids = [2, 1] ∧ issued s later = [3, 4] ∧ (issued s later).Pairwise (· < ·) ∧
      ∃ c, (next s (.exitExecute 0 (.ok ()))).collector = some c ∧ Filled c.registry ⟨50⟩ := by
  intro s later
  obtain ⟨-, hissued, hfills⟩ := ids_follow_commands .standard 7 bookkeeping (by decide +kernel)
  have htoken : s.submits.get? 0 = some ⟨⟨70⟩, [(⟨50⟩, ⟨7, 0⟩), (⟨51⟩, ⟨7, 0⟩)]⟩ := by
    decide +kernel
  have hok : (s.step (.exitExecute 0 (.ok ()))).1 = .ok .done := by decide +kernel
  obtain ⟨c, hc, hfilled⟩ := hfills 0 _ htoken hok
  refine ⟨by decide +kernel, by decide +kernel, ?_, c, hc, hfilled (⟨50⟩, ⟨7, 0⟩) (by simp)⟩
  exact (hissued later (by decide +kernel) (by decide +kernel)).1

/-- An immediate list is destroyed under an append, and a deferred one is made under its handle. -/
def destroyedUnder : List Action :=
  [.addDevice 1000 0, .create .default true, .exitListCreate ⟨50⟩ ⟨60⟩ ⟨1⟩ true (.ok ()),
    .enterAppend 0 ⟨50⟩ .barrier none, .exitListDestroy ⟨50⟩ (.ok ()),
    .exitListCreate ⟨50⟩ ⟨60⟩ ⟨1⟩ false (.ok ()), .enterAppend 1 ⟨50⟩ .barrier none,
    .exitAppend 1 (.ok ()), .exitAppend 0 (.ok ())]

/-- **A list that is destroyed under an append can get call ids that follow no command.** The
append calls its command on the new list, where the command before it was not called. -/
theorem not_bookkept_destroyed :
    ¬ ∀ c, ((of .standard 7).run destroyedUnder).collector = some c → c.registry.Bookkept := by
  intro h
  have hcollector : ((of .standard 7).run destroyedUnder).collector.isSome = true := by
    decide +kernel
  have hlist : ∀ c ∈ ((of .standard 7).run destroyedUnder).collector,
      (c.registry.lists.get? ⟨50⟩).map (fun info =>
        (info.callIds, info.commands.toList.map (·.callCount))) = some ([1], [0, 1]) := by
    decide +kernel
  obtain ⟨c, hc⟩ := Option.isSome_iff_exists.mp hcollector
  obtain ⟨info, found, hinfo⟩ := Option.map_eq_some_iff.mp (hlist c hc)
  obtain ⟨hids, hcounts⟩ := Prod.mk.inj hinfo
  have hcalls := ((h c hc).lists found).calls
  rw [hids, List.map_take, hcounts] at hcalls
  cases hcalls

end GpuTrace.Session
