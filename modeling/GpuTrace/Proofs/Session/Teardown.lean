import GpuTrace.Proofs.Collector.Teardown
import GpuTrace.Proofs.Session.Entrusted
import GpuTrace.Proofs.Session.Waiting
import GpuTrace.Proofs.Session.WellFormed

/-!
# Teardowns of a session — draining, then freeing

A list that the driver reset or destroyed is torn down: all calls that are ready finish, of any
list, and the list is freed unless a call of its own waits (`teardown_ends`).
`Session.ListFreed` says what the session looks like behind that. What the driver loses is known
only as long as the application leaves the tracer's events and pools alone (`Ledger.Respects`),
whatever else goes wrong before (`teardown_drains_then_frees`).
-/

namespace GpuTrace

open Fallible Tracing

namespace Session

variable {s : Session} {c : Collector} {finishes : List KernelFinish} {p : Profile}
  {list : CommandListHandle} {info : CommandList} {left : Option CommandList}
  {lists : Table CommandListHandle CommandList} {events : List EventHandle}
  {pools : List EventPoolHandle} {owned : List (EventPoolHandle × EventHandle)}

/-- `s'` is `s` after a teardown of the list, of which `left` is left. -/
structure ListFreed (s : Session) (c : Collector) (list : CommandListHandle) (info : CommandList)
    (left : Option CommandList) (finishes : List KernelFinish) (p : Profile) (s' : Session)
    (c' : Collector) : Prop where
  at_work : s'.collector = some c'
  /-- The application was told of the calls that finished. -/
  told_eq : told s'.journal = told s.journal ++ if c.notifies then finishes else []
  profile_eq : c'.profile = p
  /-- The calls that wait are kept, in order. -/
  pending_eq : c'.registry.pending =
    c.registry.pending.filter fun call => (s.tracing c).Unsignalled call.command
  unreferenced : ∀ call ∈ c'.registry.pending, call.command.list ≠ list
  left_eq : c'.registry.lists.get? list = left
  others_eq : ∀ other, other ≠ list →
    c'.registry.lists.get? other = c.registry.lists.get? other
  /-- What was made for the commands was there before. -/
  were_alive : ∀ o ∈ info.owned,
    s.driver.isAlive o.2 = true ∧ s.driver.pools.contains o.1 = true
  /-- The events that were made for the commands are gone, and only these. -/
  events_eq : ∀ event, s'.driver.events.get? event =
    if event ∈ info.owned.map Prod.snd then none else s.driver.events.get? event
  pools_eq : ∀ pool, s'.driver.pools.get? pool =
    if pool ∈ info.owned.map Prod.fst then none else s.driver.pools.get? pool
  driver_eq : s'.driver =
    { s.driver with events := s'.driver.events, pools := s'.driver.pools }
  warnings_eq : s'.journal.warnings = s.journal.warnings

theorem listFreed_of {notices : Array Notice} (hwf : c.registry.WellFormed)
    (answered : (s.tracing c).Answered)
    (custody : s.driver.Custody True events pools (info.owned ++ owned))
    (free : ∀ call ∈ (s.tracing c).waiting c.registry.pending, call.command.list ≠ list)
    (hnotices : told { s.journal with notices } =
      told s.journal ++ if c.notifies then finishes else [])
    (hleft : lists.get? list = left)
    (hothers : ∀ other, other ≠ list → lists.get? other = c.registry.lists.get? other) :
    ListFreed s c list info left finishes p
      (s.after ((s.tracing c).tornDown info lists p notices))
      ((s.tracing c).tornDown info lists p notices).collector where
  at_work := rfl
  told_eq := hnotices
  profile_eq := rfl
  pending_eq := answered.waiting_eq hwf
  unreferenced := free
  left_eq := hleft
  others_eq := hothers
  were_alive o ho := by
    have hmem : o ∈ info.owned ++ owned := List.mem_append_left _ ho
    exact ⟨custody.event_alive hmem, custody.pool_alive trivial hmem⟩
  events_eq _ := Driver.event_without _ _
  pools_eq _ := Driver.pool_without _ _
  driver_eq := rfl
  warnings_eq := rfl

section Teardown

variable (hc : s.collector = some c) (hwf : c.registry.WellFormed)
  (answered : (s.tracing c).Answered)
  (finalizes : (s.tracing c).Finalizes c.profile ((s.tracing c).ready c.registry.pending)
    finishes p)
  (found : c.registry.lists.get? list = some info)
  (custody : s.driver.Custody True events pools (info.owned ++ owned))

include hc hwf answered finalizes found custody

theorem drain_ends {take : Fallible Registry (Array Command)}
    (takes : Registry.Takes take list info
      { c.registry with pending := (s.tracing c).waiting c.registry.pending } lists)
    (hleft : lists.get? list = left)
    (hothers : ∀ other, other ≠ list → lists.get? other = c.registry.lists.get? other) :
    Ends (Action.hook (drainAndFree take)) s
      (fun answer s' => answer = .done ∧
        (∀ call ∈ (s.tracing c).waiting c.registry.pending, call.command.list ≠ list) ∧
        ∃ c', ListFreed s c list info left finishes p s' c')
      (fun e _ => e = .listInUse list ∧
        ∃ call ∈ (s.tracing c).waiting c.registry.pending, call.command.list = list) := by
  refine ends_bind.mpr ?_
  rw [ends_trace, hc]
  have hdrains := drainAndFree_ends (t := s.tracing c) hwf answered finalizes found custody takes
  refine hdrains.imp ?_ fun _ _ h => h
  rintro - _ ⟨free, notices, hnotices, rfl⟩
  exact ⟨rfl, free, _, listFreed_of hwf answered custody free hnotices hleft hothers⟩

/-- A reset leaves the list empty, under a new epoch; destroyed, it is gone. -/
theorem teardown_ends {a : Action}
    (teardown : a = .exitListReset list (.ok ()) ∧
        left = some (info.emptied c.registry.nextEpoch) ∨
      a = .exitListDestroy list (.ok ()) ∧ left = none) :
    Ends a.perform s
      (fun answer s' => answer = .done ∧
        (∀ call ∈ (s.tracing c).waiting c.registry.pending, call.command.list ≠ list) ∧
        ∃ c', ListFreed s c list info left finishes p s' c')
      (fun e _ => e = .listInUse list ∧
        ∃ call ∈ (s.tracing c).waiting c.registry.pending, call.command.list = list) := by
  rcases teardown with ⟨rfl, rfl⟩ | ⟨rfl, rfl⟩
  · have takes := Registry.resetList_takes found ((s.tracing c).waiting c.registry.pending)
    refine drain_ends hc hwf answered finalizes found custody takes ?_ ?_
    · rw [Table.get?_modify, if_pos rfl, found]
      rfl
    · intro other hother
      rw [Table.get?_modify, if_neg hother]
  · have takes := Registry.removeList_takes found ((s.tracing c).waiting c.registry.pending)
    refine drain_ends hc hwf answered finalizes found custody takes ?_ ?_
    · rw [Table.get?_erase, if_pos rfl]
    · intro other hother
      rw [Table.get?_erase, if_neg hother]

end Teardown

end Session

namespace Ledger

open Session Registry

/-- The application destroys nothing of the tracer's and makes no event in the tracer's pools. -/
def Respects (l : Ledger) (a : Action) : Prop :=
  l.spares a = true ∧ l.keepsApart a = true

instance (l : Ledger) (a : Action) : Decidable (l.Respects a) :=
  inferInstanceAs (Decidable (_ ∧ _))

/-- **A teardown drains, then frees.** Let the application leave the tracer's events and pools
alone, whatever stops with a fault. Let each pending event be not ready, or ready with its ticks,
and let the ready calls finish one after the other. Then resetting or destroying a registered list
stops if and only if a pending call of the list is not ready. Otherwise all ready calls, of any
list, are finished and told of, no pending call refers to the list, the list is empty or gone, the
events that were made for its commands are destroyed with their pools, and nothing else is touched
of the driver or of other lists. -/
theorem teardown_drains_then_frees (version : ApiVersion) (backend : Backend) (now : UInt64)
    (actions : List Action) (c : Collector)
    (hrun : Along next Respects (of (Session.of (.of version backend) now)) actions)
    (hc : ((Session.of (.of version backend) now).run actions).collector = some c)
    (answered : (((Session.of (.of version backend) now).run actions).tracing c).Answered)
    (finishes : List KernelFinish) (p : Profile)
    (finalizes : (((Session.of (.of version backend) now).run actions).tracing c).Finalizes
      c.profile
      ((((Session.of (.of version backend) now).run actions).tracing c).ready c.registry.pending)
      finishes p)
    (list : CommandListHandle) (info : CommandList)
    (found : c.registry.lists.get? list = some info) (a : Action) (left : Option CommandList)
    (teardown : a = .exitListReset list (.ok ()) ∧
        left = some (info.emptied c.registry.nextEpoch) ∨
      a = .exitListDestroy list (.ok ()) ∧ left = none) :
    let s := (Session.of (.of version backend) now).run actions
    let t := s.tracing c
    let waits := ∃ call ∈ c.registry.pending, call.command.list = list ∧ t.Unsignalled call.command
    List.Forall₂ (Finishes t) (t.ready c.registry.pending) finishes ∧
    ((s.step a).1 = .error (.listInUse list) ↔ waits) ∧
    (¬ waits → (s.step a).1 = .ok .done ∧
      ∃ c', ListFreed s c list info left finishes p (Session.next s a) c') := by
  intro s t waits
  have hwf : t.registry.WellFormed :=
    registryWellFormed_run (.of version backend) now actions c hc
  have hentrusted : ((of (Session.of (.of version backend) now)).run actions).session.Entrusted
      True _ _ :=
    hrun.run (entrusted_of (Driver.numbered_of version backend) now)
      fun l a ha h => entrusted_next ha.1 (fun _ => ha.2) h
  rw [run_session] at hentrusted
  obtain ⟨owned, hcustody⟩ := hentrusted.list hc found
  have hends := teardown_ends hc hwf answered finalizes found hcustody teardown
  have hwaits : waits ↔ ∃ call ∈ t.waiting c.registry.pending, call.command.list = list := by
    constructor
    · rintro ⟨call, hcall, hlist, hwaits⟩
      exact ⟨call, (answered.mem_waiting hwf).mpr ⟨hcall, hwaits⟩, hlist⟩
    · rintro ⟨call, hcall, hlist⟩
      obtain ⟨hcall, hwaits⟩ := (answered.mem_waiting hwf).mp hcall
      exact ⟨call, hcall, hlist, hwaits⟩
  refine ⟨finalizes.notices, ?_⟩
  rw [hwaits]
  rcases step_of_ends hends with ⟨_, hanswer, rfl, free, hfreed⟩ | ⟨_, hfault, rfl, hcall⟩
  · refine ⟨iff_of_false ?_ ?_, fun _ => ⟨hanswer, hfreed⟩⟩
    · rw [hanswer]
      exact nofun
    · rintro ⟨call, hcall, hlist⟩
      exact free call hcall hlist
  · exact ⟨iff_of_true hfault hcall, fun hnone => absurd hcall hnone⟩

/-- Two lists are executed in one batch. All events are signalled but the one of the last barrier,
which is on the second list; one barrier of the first list has the application's event. -/
def oneListWaits : List Action :=
  [.addDevice 1000 0, .newEvent, .create .default true,
    .exitListCreate ⟨50⟩ ⟨60⟩ ⟨1⟩ false (.ok ()), .exitListCreate ⟨51⟩ ⟨60⟩ ⟨1⟩ false (.ok ()),
    .enterAppend 0 ⟨50⟩ .barrier none, .exitAppend 0 (.ok ()),
    .enterAppend 1 ⟨50⟩ .barrier (some ⟨3⟩), .exitAppend 1 (.ok ()),
    .enterAppend 2 ⟨51⟩ .barrier none, .exitAppend 2 (.ok ()),
    .enterAppend 3 ⟨51⟩ .barrier none, .exitAppend 3 (.ok ()),
    .enterExecute 0 ⟨70⟩ [⟨50⟩, ⟨51⟩], .exitExecute 0 (.ok ()),
    .signal ⟨6⟩ ⟨10, 20⟩, .signal ⟨3⟩ ⟨30, 40⟩, .signal ⟨8⟩ ⟨50, 60⟩]

/-- The second list can not be destroyed. Resetting the first one finishes three calls, one of them
of the second list, and destroys one event with its pool. -/
theorem teardown_drains_then_frees_oneListWaits : ∃ s finishes,
    (Session.of (.of ⟨1, 2⟩ .computeDriver) 7).run oneListWaits = s ∧
      (s.step (.exitListDestroy ⟨51⟩ (.ok ()))).1 = .error (.listInUse ⟨51⟩) ∧
      (s.step (.exitListReset ⟨50⟩ (.ok ()))).1 = .ok .done ∧
      told (Session.next s (.exitListReset ⟨50⟩ (.ok ()))).journal = told s.journal ++ finishes ∧
      finishes.map (·.id) = ["1.1", "2.1", "3.1"] ∧
      (∀ event, (Session.next s (.exitListReset ⟨50⟩ (.ok ()))).driver.events.get? event =
        if event ∈ [⟨6⟩] then none else s.driver.events.get? event) ∧
      ∀ pool, (Session.next s (.exitListReset ⟨50⟩ (.ok ()))).driver.pools.get? pool =
        if pool ∈ [⟨5⟩] then none else s.driver.pools.get? pool := by
  let s := (Session.of (.of ⟨1, 2⟩ .computeDriver) 7).run oneListWaits
  have hrun : Along next Respects (of (Session.of (.of ⟨1, 2⟩ .computeDriver) 7)) oneListWaits := by
    decide +kernel
  have hsome : s.collector.isSome = true := by decide +kernel
  have hsweep : ∀ c ∈ s.collector, c.notifies = true ∧ Ends sweep (s.tracing c)
      (fun finishes _ => finishes.map (·.id) = ["1.1", "2.1", "3.1"]) (fun _ _ => False) := by
    decide +kernel
  have hlists : ∀ c ∈ s.collector,
      (c.registry.lists.get? ⟨50⟩).map (·.owned) = some [(⟨5⟩, ⟨6⟩)] ∧
        (c.registry.lists.get? ⟨51⟩).isSome = true := by decide +kernel
  have hwaits : ∀ c ∈ s.collector,
      (¬ ∃ call ∈ c.registry.pending,
        call.command.list = ⟨50⟩ ∧ (s.tracing c).Unsignalled call.command) ∧
      ∃ call ∈ c.registry.pending,
        call.command.list = ⟨51⟩ ∧ (s.tracing c).Unsignalled call.command := by decide +kernel
  obtain ⟨c, hc⟩ := Option.isSome_iff_exists.mp hsome
  obtain ⟨hnotifies, hends⟩ := hsweep c hc
  obtain ⟨hfirst, hsecond⟩ := hlists c hc
  obtain ⟨hfree, hused⟩ := hwaits c hc
  obtain ⟨info, found, howned⟩ := Option.map_eq_some_iff.mp hfirst
  obtain ⟨other, found'⟩ := Option.isSome_iff_exists.mp hsecond
  have hwf : (s.tracing c).registry.WellFormed :=
    registryWellFormed_run (.of ⟨1, 2⟩ .computeDriver) 7 oneListWaits c hc
  obtain ⟨finishes, t', hresult, hids⟩ := hends.exists_ok
  obtain ⟨answered, p, finalizes, -⟩ := (sweep_eq_ok_iff hwf).mp hresult
  have htorn := teardown_drains_then_frees ⟨1, 2⟩ .computeDriver 7 oneListWaits c hrun hc answered
    finishes p finalizes
  obtain ⟨-, hstops, -⟩ := htorn ⟨51⟩ other found' _ _ (.inr ⟨rfl, rfl⟩)
  obtain ⟨-, -, hfrees⟩ := htorn ⟨50⟩ info found _ _ (.inl ⟨rfl, rfl⟩)
  obtain ⟨hdone, c', hfreed⟩ := hfrees hfree
  have htold := hfreed.told_eq
  have hevents := hfreed.events_eq
  have hpools := hfreed.pools_eq
  rw [if_pos hnotifies] at htold
  rw [howned] at hevents hpools
  exact ⟨_, finishes, rfl, hstops.mpr hused, hdone, htold, hids, hevents, hpools⟩

end Ledger

end GpuTrace
