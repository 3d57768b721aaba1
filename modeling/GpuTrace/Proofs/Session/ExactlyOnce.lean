import GpuTrace.Proofs.Registry.Account
import GpuTrace.Proofs.Session.Deed
import GpuTrace.Proofs.Session.Touch

/-!
# Exactly once, in order — the notices of a run

In a run of one collector without faults, the notices about every command that was ever
registered are about its calls `1, 2, ..., m` in this order. As long as the command is
registered its other calls are pending, in order; when its list is torn down all of its
calls were noticed, and none is noticed later.

`Tells` ties the journal to the accounts of the registry; every deed keeps it
(`Deed.tells`) and says what became of the registered commands (`Progress`). Main fact:
`notices_exactly_once`.
-/

namespace GpuTrace.Session

open Fallible Tracing Registry

def AppendsFresh (s : Session) : Prop :=
  ∀ token append, s.appends.get? token = some append → append.command.callCount = 0

/-- The notices of the run are the accounts of the collector's registry, and no append
in flight has calls. -/
structure Tells (earlier ids : List String) (c : Collector) (s : Session) : Prop where
  at_work : s.collector = some c
  notifies : c.notifies = true
  told : noticeIds s.journal = earlier ++ ids
  accounts : c.registry.Accounts ids
  fresh : s.AppendsFresh

/-- What an action did to the accounts: closed ones stay closed, and of each command the
account goes on, or was closed by the teardown of its list. -/
structure Progress (a : Action) (r : Registry) (ids : List String) (r' : Registry)
    (ids' : List String) : Prop where
  accounts : r'.Accounts ids'
  closed : ∀ ref kernelId n, Closed ref kernelId n r ids → Closed ref kernelId n r' ids'
  stays : ∀ ref command, r.command ref = .ok command →
    (∃ command', r'.command ref = .ok command' ∧ command'.kernelId = command.kernelId) ∨
      a.teardown? = some ref.list ∧ Closed ref command.kernelId command.callCount r' ids'

variable {s s' : Session} {c : Collector} {a : Action} {earlier ids : List String}
  {r r' : Registry}

theorem Progress.refl (h : r.Accounts ids) : Progress a r ids r ids :=
  ⟨h, fun _ _ _ hc => hc, fun _ command hc => .inl ⟨command, hc, rfl⟩⟩

theorem Progress.reaches (h : r.Accounts ids) (hr : Reaches Change.GoesOn r r') :
    Progress a r ids r' ids := by
  refine ⟨?_, ?_, ?_⟩
  · exact hr.induct (I := fun r => r.Accounts ids) h fun _ _ _ hc hm hi => hi.goesOn hm hc
  · intro ref kernelId n hclosed
    exact hr.induct (I := fun r => Closed ref kernelId n r ids) hclosed
      fun _ _ _ _ hm hi => hi.move hm
  · intro ref command hc
    have hlive : Live ref command r' := by
      refine hr.induct (live_of_command h.wellFormed hc) ?_
      intro r change r' hgoes hm hi
      exact hi.move hm (by simp [hgoes.frees_nothing])
    obtain ⟨callCount, -, hc'⟩ := hlive.answers
    exact .inl ⟨_, hc', rfl⟩

theorem Progress.settles {t t' : Tracing} {finished : List KernelFinish}
    (h : t.registry.Accounts ids) (hs : Settles t finished t') :
    Progress a t.registry ids t'.registry (ids ++ finished.map (·.id)) := by
  obtain ⟨calls, pending, p, hfinished, rfl, hsub, hsplit⟩ := hs
  have hnews : Notices t.registry calls (finished.map (·.id)) :=
    List.forall₂_map_right_iff.mpr hfinished
  exact ⟨h.settle hsub hsplit hnews, fun _ _ _ hc => hc.settle hnews,
    fun _ command hc => .inl ⟨command, hc, rfl⟩⟩

theorem Progress.frees {list : CommandListHandle} {change : Change} (h : r.Accounts ids)
    (hm : Move r change r') (hfrees : change.frees? = some list) (ha : a.teardown? = some list) :
    Progress a r ids r' ids := by
  refine ⟨?_, fun _ _ _ hc => hc.move hm, ?_⟩
  · refine h.move hm ?_ ?_
    · rintro index rfl
      cases hfrees
    · rintro list' command rfl
      cases hfrees
  · intro ref command hc
    by_cases hlist : ref.list = list
    · exact .inr ⟨by rw [ha, hlist], h.closed hm hfrees hc hlist⟩
    · have hlive : Live ref command r' :=
        (live_of_command h.wellFormed hc).move hm (by simp [hfrees, Ne.symm hlist])
      obtain ⟨callCount, -, hc'⟩ := hlive.answers
      exact .inl ⟨_, hc', rfl⟩

theorem Tells.quiet (h : Tells earlier ids c s) {c' : Collector} (hc : s'.collector = some c')
    (hn : c'.notifies = c.notifies) (hj : s'.journal.notices = s.journal.notices)
    (hp : Progress a c.registry ids c'.registry ids)
    (hfresh : s'.AppendsFresh) :
    ∃ news c', Tells earlier (ids ++ news) c' s' ∧
      Progress a c.registry ids c'.registry (ids ++ news) := by
  have htold : noticeIds s'.journal = earlier ++ ids := by
    rw [← h.told, noticeIds, noticeIds, hj]
  refine ⟨[], c', ?_⟩
  rw [List.append_nil]
  exact ⟨⟨hc, hn.trans h.notifies, htold, hp.accounts, hfresh⟩, hp⟩

theorem AppendsFresh.erase (h : s.AppendsFresh) (token : Nat) :
    ∀ token' append, (s.appends.erase token).get? token' = some append →
      append.command.callCount = 0 := by
  intro token' append happend
  rw [Table.get?_erase] at happend
  split at happend
  · cases happend
  · exact h token' append happend

/-- Every deed keeps the notices and the accounts together. -/
theorem Deed.tells {answer : Answer} (hd : Deed s c a answer s') (h : Tells earlier ids c s) :
    ∃ news c', Tells earlier (ids ++ news) c' s' ∧
      Progress a c.registry ids c'.registry (ids ++ news) := by
  cases hd with
  | outside ha hd => exact h.quiet h.at_work rfl rfl (.refl h.accounts) h.fresh
  | toggled on => exact h.quiet rfl rfl rfl (.refl h.accounts) h.fresh
  | idle absent => exact h.quiet h.at_work rfl rfl (.refl h.accounts) h.fresh
  | noted ha submits changes =>
    obtain ⟨r', hr, rfl⟩ := changes
    have hgoes := hr.imp fun _ => Change.goesOn_of_plain
    exact h.quiet rfl rfl rfl (.reaches h.accounts hgoes) h.fresh
  | @entered list op signal answer t token enter =>
    obtain ⟨driver, warnings, -, rfl⟩ := (Tracing.enterAppend_within list op signal _).of_ok enter
    have hnew := (enterAppend_answers list op signal _).of_ok enter
    refine h.quiet rfl rfl rfl (.refl h.accounts) ?_
    cases hin : answer.inFlight with
    | none => exact h.fresh
    | some new =>
      intro token' append happend
      have happend' : (s.appends.insert token new).get? token' = some append := happend
      rw [Table.get?_insert] at happend'
      split at happend'
      · cases happend'
        exact (hnew _ hin).2
      · exact h.fresh token' append happend'
  | @registered token append answer t found registers =>
    obtain ⟨r₁, r₂, happend, hcall, rfl⟩ := registers
    have hzero := h.fresh token append found
    have hr₁ : Reaches Change.GoesOn c.registry r₁ := happend.reaches hzero
    refine h.quiet rfl rfl rfl (.reaches h.accounts ?_) (h.fresh.erase token)
    rcases hcall with rfl | ⟨call, hcall⟩
    · exact hr₁
    · exact trans_of (Reaches _) hr₁ (hcall.reaches (Change.goesOn_of_plain rfl))
  | @refused token append answer e t found released =>
    obtain ⟨driver, warnings, -, rfl⟩ := (releaseCommand_within append.command _).of_ok released
    exact h.quiet rfl rfl rfl (.refl h.accounts) (h.fresh.erase token)
  | @completed _ _ finished t₁ t₂ ha settles told =>
    have hp := Progress.settles (t := s.tracing c) (a := a) h.accounts settles
    obtain ⟨calls, pending, p, -, rfl, -⟩ := settles
    obtain ⟨notices, rfl, hids⟩ := (notify_ends finished).of_ok told
    refine ⟨finished.map fun f : KernelFinish => f.id, _,
      ⟨rfl, h.notifies, ?_, hp.accounts, h.fresh⟩, hp⟩
    rw [← List.append_assoc, ← h.told]
    exact hids h.notifies
  | @freed _ _ list change info finished t₁ r t₂ t₃ ha settles found hc move told released =>
    have hp := Progress.settles (t := s.tracing c) (a := a) h.accounts settles
    have hfree := Progress.frees hp.accounts move hc ha
    have hsame : ∀ ref, t₁.registry.command ref = c.registry.command ref := by
      obtain ⟨calls, pending, p, -, rfl, -⟩ := settles
      exact fun ref => rfl
    obtain ⟨calls, pending, p, -, rfl, -⟩ := settles
    obtain ⟨notices, rfl, hids⟩ := (notify_ends finished).of_ok told
    obtain ⟨driver, warnings, -, rfl⟩ := (releaseCommands_within _ _).of_ok released
    refine ⟨finished.map fun f : KernelFinish => f.id, _,
      ⟨rfl, h.notifies, ?_, hfree.accounts, h.fresh⟩,
      hfree.accounts, fun _ _ _ hclosed => hfree.closed _ _ _ (hp.closed _ _ _ hclosed), ?_⟩
    · rw [← List.append_assoc, ← h.told]
      exact hids h.notifies
    · intro ref command hcommand
      exact hfree.stays ref command ((hsame ref).trans hcommand)

theorem Tells.step (h : Tells earlier ids c s) (hs : Serves s a) :
    ∃ news c', Tells earlier (ids ++ news) c' (s.step a).2 ∧
      Progress a c.registry ids c'.registry (ids ++ news) := by
  obtain ⟨ha, answer, hok⟩ := hs
  exact (step_deed h.at_work h.accounts.wellFormed ha hok).tells h

/-! ## Runs -/

def Registered (s : Session) (ref : CommandRef) (command : Command) : Prop :=
  ∃ c, s.collector = some c ∧ c.registry.command ref = .ok command

def pendingOf (s : Session) (ref : CommandRef) : List Call :=
  match s.collector with
  | some c => c.registry.pendingOf ref
  | none => []

/-- The command is registered: its first `m` calls were noticed, in order and nothing
else of it, and the other ones are pending, in order. -/
def Ongoing (ids : List String) (ref : CommandRef) (kernelId : Nat) (s : Session) : Prop :=
  ∃ command m, Registered s ref command ∧ command.kernelId = kernelId ∧ m ≤ command.callCount ∧
    Delivered ids kernelId m ∧
    (s.pendingOf ref).map (·.callId) = List.range' (m + 1) (command.callCount - m)

/-- One of the actions tore down the list of the command: all calls that the command had
made then were noticed, in order and nothing else of it, and none is pending. -/
def TornDown (ids : List String) (ref : CommandRef) (kernelId : Nat) (s : Session)
    (actions : List Action) : Prop :=
  ∃ before a later command, actions = before ++ a :: later ∧ a.teardown? = some ref.list ∧
    Registered (s.run before) ref command ∧ command.kernelId = kernelId ∧
    Delivered ids kernelId command.callCount ∧ (s.run actions).pendingOf ref = []

theorem Tells.ongoing (h : Tells earlier ids c s) {ref : CommandRef} {command : Command}
    (hc : c.registry.command ref = .ok command) : Ongoing ids ref command.kernelId s := by
  obtain ⟨m, hm, hdelivered, hpending⟩ := h.accounts.balanced ref command hc
  refine ⟨command, m, ⟨c, h.at_work, hc⟩, rfl, hm, hdelivered, ?_⟩
  unfold pendingOf
  rw [h.at_work]
  exact hpending

/-- A run of served actions keeps the notices and the accounts together, leaves closed
accounts closed, and decides what became of each registered command. -/
theorem Tells.run (h : Tells earlier ids c s) {actions : List Action}
    (hrun : Along next Serves s actions) :
    ∃ ids' c', Tells earlier ids' c' (s.run actions) ∧
      (∀ ref kernelId n, Closed ref kernelId n c.registry ids →
        Closed ref kernelId n c'.registry ids') ∧
      ∀ ref command, c.registry.command ref = .ok command →
        Ongoing ids' ref command.kernelId (s.run actions) ∨
          TornDown ids' ref command.kernelId s actions := by
  induction actions generalizing s c ids with
  | nil => exact ⟨ids, c, h, fun _ _ _ hc => hc, fun ref command hc => .inl (h.ongoing hc)⟩
  | cons a actions ih =>
    obtain ⟨news, c₁, h₁, hp⟩ := h.step hrun.1
    obtain ⟨ids', c', h', hclosed, hfate⟩ := ih h₁ hrun.2
    refine ⟨ids', c', h', fun _ _ _ hc => hclosed _ _ _ (hp.closed _ _ _ hc), ?_⟩
    intro ref command hc
    rcases hp.stays ref command hc with ⟨command', hc', heq⟩ | ⟨ha, hfreed⟩
    · rw [← heq]
      rcases hfate ref command' hc' with hgoing | ⟨before, b, later, last, rfl, hb, hlast⟩
      · exact .inl hgoing
      · exact .inr ⟨a :: before, b, later, last, rfl, hb, hlast⟩
    · have hend := hclosed _ _ _ hfreed
      refine .inr ⟨[], a, actions, command, rfl, ha, ⟨c, h.at_work, hc⟩, rfl, hend.delivered, ?_⟩
      show (((s.step a).2.run actions).pendingOf ref) = []
      unfold pendingOf
      rw [h'.at_work]
      exact hend.pendingOf_eq_nil h'.accounts.wellFormed

theorem Touch.appendsFresh (ht : Touch s s') (h : s.AppendsFresh) : s'.AppendsFresh := by
  cases ht with
  | outside => exact h
  | warned => exact h
  | made => exact h
  | forgotten => exact h
  | traced => exact h
  | submits => exact h
  | taken token => exact h.erase token
  | kept token unregistered =>
    intro token' append happend
    rw [Table.get?_insert] at happend
    split at happend
    · cases happend
      exact unregistered
    · exact h token' append happend

theorem Creates.tells {driver : Driver} {now : UInt64} {before : List Action} {config : Config}
    {created : Session}
    (hborn : Creates config true ((Session.of driver now).run before) created) :
    ∃ c, Tells (noticeIds created.journal) [] c created := by
  have hinit : (Session.of driver now).AppendsFresh := nofun
  have hfresh := run_keeps (fun _ _ => Touch.appendsFresh) hinit before
  obtain ⟨c, driver', warnings, hnew, -, -, rfl⟩ := hborn.replaced
  refine ⟨c, rfl, hnew.notifies_eq, (List.append_nil _).symm, ?_, hfresh⟩
  rw [hnew.registry_eq]
  exact accounts_empty

end GpuTrace.Session
