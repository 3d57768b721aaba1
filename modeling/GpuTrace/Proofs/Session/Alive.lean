import GpuTrace.Proofs.Session.Entrusted
import GpuTrace.Proofs.Session.WellFormed

/-!
# Alive — no event goes while a call waits for it

A collector asks the driver for the events of pending calls. Each belongs to a registered command,
and the event of a command was made for it, and is then in the tracer's custody, or it was lent by
the application. If the application lends only what is its own and destroys nothing that a command
still has (`Ledger.Lends`), all these events are alive at every point of a run, whatever stops with
a fault and however often the collector is replaced: `Session.Backed` is the invariant. Its custody
is that of `Session.Entrusted`; what was lent follows the commands (`Turn.commands_from`).

If moreover no status is forced, an event that is ready has ticks (`Driver.Regular`). So the driver
answers for every pending call, and no completion stops at a refusal (`pending_events_alive`).
-/

namespace GpuTrace

open Fallible Tracing Registry
open scoped List

namespace Session

/-- If the event of the command was lent, it is one of these. -/
def LentFrom (events : List EventHandle) (command : Command) : Prop :=
  ∀ event, command.signal = .borrowed event → event ∈ events

/-- The events of all commands are the application's or in the tracer's custody. -/
structure Backed (s : Session) (events : List EventHandle) (pools : List EventPoolHandle) :
    Prop where
  /-- Events of appends that were lost on the way are still there too. -/
  custody : ∃ lost, s.driver.Custody False events pools (ownedOf s.commands ++ lost)
  no_event_kept : ∀ event e, Warning.eventKept event e ∉ s.journal.warnings
  lent : ∀ command ∈ s.commands, LentFrom events command

variable {s s' : Session} {events : List EventHandle} {pools : List EventPoolHandle}
  {c : Collector} {t : Tracing} {a : Action}

/-! ## Where commands come from -/

theorem mem_commands_of (hc : s.collector = some c) {command : Command} :
    command ∈ s.commands ↔
      command ∈ c.registry.commands ∨ ∃ append ∈ s.appends.values, append.command = command := by
  rw [commands_of hc, List.mem_append, List.mem_map]

theorem mem_commands_erase {token : Nat} {submits : Table Nat SubmitToken} {command : Command}
    (h : command ∈ commands { s with appends := s.appends.erase token, submits }) :
    command ∈ s.commands := by
  obtain ⟨gone, hgone⟩ := s.appends.values_erase_perm token
  rcases List.mem_append.mp h with hold | hnew
  · exact List.mem_append_left _ hold
  · obtain ⟨append, happend, rfl⟩ := List.mem_map.mp hnew
    refine List.mem_append_right _ (List.mem_map_of_mem (hgone.mem_iff.mpr ?_))
    exact List.mem_append_left _ happend

/-- The event of a command was there before, or it came by the append that begins. -/
theorem Turn.commands_from {result : Except Fault Answer} (hturn : Turn s a result s')
    {command : Command} (hcommand : command ∈ s'.commands) :
    (∃ old ∈ s.commands, old.signal = command.signal) ∨
      ∃ token list op signal, a = .enterAppend token list op signal ∧
        ∀ event, command.signal = .borrowed event → signal = some event := by
  cases hturn with
  | @idle a result appends submits quiet appends_from =>
    rcases appends_from with rfl | ⟨token, rfl⟩
    · exact .inl ⟨command, hcommand, rfl⟩
    · exact .inl ⟨command, mem_commands_erase hcommand, rfl⟩
  | @hooked a result c t quiet at_work subsides =>
    rcases (mem_commands_of rfl).mp hcommand with hold | happend
    · obtain ⟨old, hold, hsignal⟩ := subsides.changes.registry.commands_old hold
      exact .inl ⟨old, (mem_commands_of at_work).mpr (.inl hold), hsignal⟩
    · exact .inl ⟨command, (mem_commands_of at_work).mpr (.inr happend), rfl⟩
  | @begun token list op signal c append event t at_work enter =>
    have hbegins := (enterAppend_begins list op signal).of_ok enter append rfl
    obtain ⟨driver, warnings, -, rfl⟩ := (enterAppend_within list op signal _).of_ok enter
    rcases (mem_commands_of rfl).mp hcommand with hold | ⟨append', happend, rfl⟩
    · exact .inl ⟨command, (mem_commands_of at_work).mpr (.inl hold), rfl⟩
    · have hvalues : (s.appends.insert token append).values ~
          append :: (s.appends.erase token).values := Table.values_insert_perm
      obtain ⟨gone, hgone⟩ := s.appends.values_erase_perm token
      rcases List.mem_cons.mp (hvalues.mem_iff.mp happend) with rfl | hold
      · exact .inr ⟨token, list, op, signal, rfl, hbegins.2.2⟩
      · refine .inl ⟨_, (mem_commands_of at_work).mpr (.inr ⟨append', ?_, rfl⟩), rfl⟩
        exact hgone.mem_iff.mpr (List.mem_append_left _ hold)
  | @unbegun token list op signal result c quiet at_work =>
    obtain ⟨driver, warnings, -, ht⟩ := (enterAppend_within list op signal).final (s.tracing c)
    rw [ht, commands_of rfl] at hcommand
    refine .inl ⟨command, ?_, rfl⟩
    rw [commands_of at_work]
    exact hcommand
  | @ended token r append result c quiet at_work found =>
    have hvalues := Table.values_perm found
    rcases (mem_commands_of rfl).mp hcommand with hold | ⟨append', happend, rfl⟩
    · rcases exitAppend_commands hold with ⟨old, hold, hsignal⟩ | hsignal
      · exact .inl ⟨old, (mem_commands_of at_work).mpr (.inl hold), hsignal⟩
      · refine .inl ⟨_, (mem_commands_of at_work).mpr (.inr ⟨append, ?_, rfl⟩), hsignal⟩
        exact hvalues.mem_iff.mpr List.mem_cons_self
    · refine .inl ⟨_, (mem_commands_of at_work).mpr (.inr ⟨append', ?_, rfl⟩), rfl⟩
      exact hvalues.mem_iff.mpr (List.mem_cons_of_mem _ happend)
  | @planned token queue lists c submit at_work =>
    exact .inl ⟨command, hcommand, rfl⟩
  | @executed token r submit result c quiet at_work =>
    rcases (mem_commands_of rfl).mp hcommand with hold | happend
    · have hchanges := ((exitExecute_changes submit r).final (s.tracing c)).changes.registry
      rcases hchanges.commands_from hold with ⟨old, hold, hsignal⟩ | ⟨list, new, hnew, -⟩
      · exact .inl ⟨old, (mem_commands_of at_work).mpr (.inl hold), hsignal⟩
      · rcases hnew with ⟨_, hclear⟩ | ⟨_, _, _, _, hcall⟩
        · cases hclear
        · cases hcall
    · exact .inl ⟨command, (mem_commands_of at_work).mpr (.inr happend), rfl⟩

namespace Backed

theorem alive (h : s.Backed events pools) {command : Command} (hcommand : command ∈ s.commands) :
    s.driver.isAlive command.event = true := by
  obtain ⟨lost, hcustody⟩ := h.custody
  cases hsignal : command.signal with
  | owned pool event =>
    have howned : (pool, event) ∈ ownedOf s.commands ++ lost :=
      List.mem_append_left _ (List.mem_filterMap.mpr ⟨command, hcommand, by rw [hsignal]; rfl⟩)
    rw [Command.event, hsignal]
    exact hcustody.event_alive howned
  | borrowed event =>
    rw [Command.event, hsignal]
    refine Driver.mem_events_keys.mp (hcustody.events_perm.mem_iff.mpr ?_)
    exact List.mem_append_left _ (h.lent command hcommand event hsignal)

theorem entrusted (h : s.Backed events pools) : s.Entrusted False events pools :=
  ⟨h.custody, h.no_event_kept, False.elim⟩

/-! ## Steps -/

theorem aside (h : s.Backed events pools) (hs : Aside s s') (hpools : KeepsNoPool s s') :
    s'.Backed events pools := by
  have hentrusted := h.entrusted.aside hs hpools
  obtain ⟨gone, hcommands⟩ := hs.commands
  refine ⟨hentrusted.custody, hentrusted.no_event_kept, fun command hcommand => ?_⟩
  exact h.lent command (hcommands.mem_iff.mpr (List.mem_append_left _ hcommand))

theorem turn {result : Except Fault Answer} (h : s.Backed events pools)
    (hturn : Turn s a result s')
    (hlends : ∀ token list op signal event, a = .enterAppend token list op signal →
      signal = some event → event ∈ events) : s'.Backed events pools := by
  have hentrusted := h.entrusted.turn hturn
  refine ⟨hentrusted.custody, hentrusted.no_event_kept, fun command hcommand event hborrowed => ?_⟩
  rcases hturn.commands_from hcommand with ⟨old, hold, hsignal⟩ | ⟨_, _, _, _, ha, hfrom⟩
  · exact h.lent old hold event (hsignal.trans hborrowed)
  · exact hlends _ _ _ _ event ha (hfrom event hborrowed)

end Backed

/-- Only forcing a status makes a driver irregular. -/
theorem step_regular (hforce : ∀ event status, a ≠ .setEventStatus event status)
    (h : s.driver.Regular) : (s.step a).2.driver.Regular := by
  cases hd : a.disturbs with
  | false => exact h.undisturbed (step_calm hd)
  | true =>
    rcases step_disturbing (s := s) hd with hevents | ⟨event, f, hf, hevents⟩
    · intro e st hst
      exact h e st (hevents ▸ hst)
    · refine h.modify hevents fun st => ?_
      cases a with
      | signal event timestamp =>
        cases hf
        exact .inr ⟨rfl, rfl⟩
      | hostReset event =>
        cases hf
        exact .inl rfl
      | setEventStatus event status => exact absurd rfl (hforce event status)
      | _ => cases hf

end Session

/-! ## Runs -/

namespace Ledger

open Session

variable {l : Ledger} {a : Action}

/-- The application lends an append only a live event of its own, it destroys no event that a
command still has, and it forces no status. -/
def lends (l : Ledger) : Action → Bool
  | .enterAppend _ _ _ (some event) => l.events.contains event
  | .destroyEvent event => l.session.commands.all (·.event ≠ event)
  | .setEventStatus .. => false
  | _ => true

def Lends (l : Ledger) (a : Action) : Prop :=
  l.spares a = true ∧ l.lends a = true

instance (l : Ledger) (a : Action) : Decidable (l.Lends a) :=
  inferInstanceAs (Decidable (_ ∧ _))

/-- The events of all commands are there, and the driver answers for them. -/
structure Answering (l : Ledger) : Prop where
  backed : l.session.Backed l.events l.pools
  regular : l.session.driver.Regular
  wellFormed : l.session.RegistryWellFormed

theorem Lends.backed_outside (h : l.Lends a) (ha : a.isOutside = true)
    (hbacked : l.session.Backed l.events l.pools) :
    (l.next a).session.Backed (l.next a).events (l.next a).pools := by
  obtain ⟨hspares, hlends⟩ := h
  have hentrusted := entrusted_outside ha hspares False.elim hbacked.entrusted
  refine ⟨hentrusted.custody, hentrusted.no_event_kept, ?_⟩
  obtain ⟨driver, now, evolves, hs⟩ := step_within (s := l.session) (outside_within a ha)
  unfold next
  rw [after_outside ha, hs]
  intro command hcommand event hborrowed
  have hcommand' : command ∈ l.session.commands := hcommand
  have hevent : command.event = event := by rw [Command.event, hborrowed]; rfl
  refine Driver.mem_ownAfter.mpr ⟨?_, .inl (hbacked.lent command hcommand' event hborrowed)⟩
  rw [Driver.mem_events_keys, ← hevent]
  rcases evolves.events_kept _ (hbacked.alive hcommand') with halive | hdestroys
  · exact halive
  · obtain rfl := destroys_license hdestroys
    have hnone := List.all_eq_true.mp hlends command hcommand'
    simp at hnone

theorem Answering.next (h : l.Answering) (ha : l.Lends a) : (l.next a).Answering where
  backed := by
    cases hout : a.isOutside with
    | true => exact ha.backed_outside hout h.backed
    | false =>
      rw [(next_own hout).1, (next_own hout).2]
      cases hlife : a.isLifecycle with
      | true =>
        exact h.backed.aside (step_within (lifecycle_aside hlife))
          (step_within (lifecycle_keepsNoPool hlife))
      | false =>
        refine h.backed.turn (step_turn hout hlife) ?_
        rintro token list op signal event rfl rfl
        simpa [Lends, spares, lends] using ha
  regular := by
    refine step_regular ?_ h.regular
    rintro event status rfl
    cases ha.2
  wellFormed := h.wellFormed.next a

theorem answering_of (version : ApiVersion) (backend : Backend) (now : UInt64) :
    (of (Session.of (.of version backend) now)).Answering where
  backed := {
    custody := ⟨[], (Driver.numbered_of version backend).custody⟩
    no_event_kept := fun event e => by simp [of, Session.of, Journal.empty]
    lent := fun command hcommand => by cases hcommand }
  regular := nofun
  wellFormed := nofun

/-- **Events of pending calls are alive.** In a run in which the application lends appends only
live events of its own, takes none back that a registered command or an append in flight has, and
forces no status, the event of every pending call is alive and every event that is ready has ticks,
at every point and whatever stopped with a fault before. So neither a sweep nor the question for
one event stops because the driver refuses an answer. -/
theorem pending_events_alive (version : ApiVersion) (backend : Backend) (now : UInt64)
    (actions : List Action) (c : Collector)
    (hrun : Along next Lends (of (Session.of (.of version backend) now)) actions)
    (hc : ((Session.of (.of version backend) now).run actions).collector = some c) :
    let s := (Session.of (.of version backend) now).run actions
    (∀ call ∈ c.registry.pending, ∃ command, c.registry.command call.command = .ok command ∧
      s.driver.isAlive command.event = true) ∧
    (∀ event, s.driver.eventStatus event = .ready →
      ∃ timestamp, s.driver.kernelTimestamp event = .ok timestamp) ∧
    (∀ e t, sweep (s.tracing c) = .error e t → ¬ e.IsRefusal) ∧
    ∀ event e t, completeEvent event (s.tracing c) = .error e t → ¬ e.IsRefusal := by
  intro s
  have h : ((of (Session.of (.of version backend) now)).run actions).Answering :=
    hrun.run (answering_of version backend now) fun l a ha h => h.next ha
  have hsession : ((of (Session.of (.of version backend) now)).run actions).session = s :=
    run_session _ actions
  have hbacked := h.backed
  have hregular := h.regular
  have hwf := h.wellFormed
  rw [hsession] at hbacked hregular hwf
  have hwf : c.registry.WellFormed := hwf c hc
  have halive : ∀ call ∈ c.registry.pending, ∀ command,
      c.registry.command call.command = .ok command → s.driver.isAlive command.event = true := by
    intro call hcall command hcommand
    refine hbacked.alive ?_
    rw [commands_of hc]
    exact List.mem_append_left _ (mem_commands.mpr ⟨call.command, hcommand⟩)
  refine ⟨fun call hcall => ?_, fun event hready => ?_, fun e t he => ?_, fun event e t he => ?_⟩
  · obtain ⟨command, hcommand, -⟩ := hwf.resolves call hcall
    exact ⟨command, hcommand, halive call hcall command hcommand⟩
  · have hthere : s.driver.isAlive event = true := by
      cases hst : s.driver.events.get? event with
      | none => simp [Driver.eventStatus, hst] at hready
      | some st => exact Driver.isAlive_iff.mpr ⟨st, hst⟩
    rcases hregular.answers hthere with hwaits | ⟨-, hticks⟩
    · rw [hwaits] at hready
      cases hready
    · exact hticks
  · exact (sweep_stops (t := s.tracing c) hwf he).not_refusal hregular halive
  · have hstops := ((completeEvent_cases (t := s.tracing c) hwf event).of_error he).1
    exact hstops.not_refusal hregular halive

/-- A batch of two commands, one with the application's event and one with an event of its own, is
submitted twice; in between its list can not be reset. -/
def lentTwice : List Action :=
  [.addDevice 1000 0, .newEvent, .create .default true,
    .exitListCreate ⟨9⟩ ⟨8⟩ ⟨1⟩ false (.ok ()), .enterAppend 0 ⟨9⟩ .barrier (some ⟨3⟩),
    .exitAppend 0 (.ok ()), .enterAppend 1 ⟨9⟩ .barrier none, .exitAppend 1 (.ok ()),
    .enterExecute 0 ⟨7⟩ [⟨9⟩], .exitExecute 0 (.ok ()), .signal ⟨3⟩ ⟨10, 20⟩,
    .exitListReset ⟨9⟩ (.ok ()), .hostReset ⟨3⟩, .enterExecute 1 ⟨7⟩ [⟨9⟩],
    .exitExecute 1 (.ok ()), .signal ⟨3⟩ ⟨30, 40⟩]

/-- The first call is complete, three wait, and a sweep gets an answer for each. -/
theorem pending_events_alive_lentTwice :
    ∃ c, ((Session.of .standard 7).run lentTwice).collector = some c ∧
      c.registry.pending.length = 3 ∧
      (∃ timestamp,
        ((Session.of .standard 7).run lentTwice).driver.kernelTimestamp ⟨3⟩ = .ok timestamp) ∧
      ∀ e t, sweep (((Session.of .standard 7).run lentTwice).tracing c) = .error e t →
        ¬ e.IsRefusal := by
  have hrun : Along next Lends (of (Session.of .standard 7)) lentTwice := by decide +kernel
  have hlength : ((Session.of .standard 7).run lentTwice).collector.map
      (·.registry.pending.length) = some 3 := by decide +kernel
  have hready : ((Session.of .standard 7).run lentTwice).driver.eventStatus ⟨3⟩ = .ready := by
    decide +kernel
  obtain ⟨c, hc, hlength⟩ := Option.map_eq_some_iff.mp hlength
  obtain ⟨-, hticks, hsweep, -⟩ :=
    pending_events_alive ⟨1, 2⟩ .computeDriver 7 lentTwice c hrun hc
  exact ⟨c, hc, hlength, hticks ⟨3⟩ hready, hsweep⟩

end Ledger

end GpuTrace
