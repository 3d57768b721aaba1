import GpuTrace.Proofs.Session.Custody
import GpuTrace.Proofs.Session.Turn

/-!
# Entrusted — custody over runs in which anything may stop

`Ledger.Custody` follows runs in which every action ends with an answer. Here hooks may stop with a
fault, tokens may be used again, and collectors may come and go. Each of these can leave an event
that the tracer made to nobody; such an event is lost, but it stays alive.
`Session.Entrusted` says that what is alive is the application's, belongs to a command that is
registered or in an append in flight, or is lost; and that the driver refused no destruction.

`Entrusted.turn` keeps it over hooks, `Entrusted.aside` as collectors come and go, and
`entrusted_outside` while the application acts.
-/

namespace GpuTrace

open Fallible Tracing Registry
open scoped List

namespace Session

/-- The commands that may still ask for their event: the registered ones and those of the appends
under a token. -/
def commands (s : Session) : List Command :=
  s.collector.elim [] (·.registry.commands) ++ s.appends.values.map (·.command)

/-- What is alive is the application's, belongs to a command, or is lost. -/
structure Entrusted (apart : Prop) (s : Session) (events : List EventHandle)
    (pools : List EventPoolHandle) : Prop where
  custody : ∃ lost, s.driver.Custody apart events pools (ownedOf s.commands ++ lost)
  no_event_kept : ∀ event e, Warning.eventKept event e ∉ s.journal.warnings
  no_pool_kept : apart → ∀ pool e, Warning.poolKept pool e ∉ s.journal.warnings

variable {apart : Prop} {s s' : Session} {events : List EventHandle}
  {pools : List EventPoolHandle} {c : Collector} {t : Tracing} {a : Action}

theorem commands_of (hc : s.collector = some c) :
    s.commands = c.registry.commands ++ s.appends.values.map (·.command) := by
  rw [commands, hc]
  rfl

/-! ## Collectors come and go -/

def KeepsNoPool (s s' : Session) : Prop :=
  ∀ pool e, Warning.poolKept pool e ∈ s'.journal.warnings →
    Warning.poolKept pool e ∈ s.journal.warnings

instance : IsPreorder Session KeepsNoPool where
  refl _ _ _ h := h
  trans _ _ _ h h' pool e hkept := h pool e (h' pool e hkept)

theorem warn_keepsNoPool (w : Warning) (hw : ∀ pool e, Warning.poolKept pool e ≠ w) :
    Within KeepsNoPool (warn w) := fun s pool e hkept => by
  rcases Array.mem_push.mp hkept with hold | hnew
  · exact hold
  · exact absurd hnew (hw pool e)

theorem dropCollector_keepsNoPool : Within KeepsNoPool dropCollector := by
  unfold dropCollector
  refine within_bind within_get fun s => ?_
  split
  · exact within_pure _
  · refine within_bind (fun _ _ _ h => h) fun _ =>
      within_bind (fun _ _ _ h => h) fun dropped => ?_
    split
    · exact within_pure _
    · exact warn_keepsNoPool _ nofun

theorem createCollector_keepsNoPool (config : Config) (notifies : Bool) :
    Within KeepsNoPool (createCollector config notifies) := by
  have hnew : Within KeepsNoPool (newCollector config notifies) := fun s => by
    refine (newCollector_ends config notifies).imp ?_ ?_
    · rintro made _ ⟨⟨driver, -, rfl⟩, -⟩
      exact fun _ _ h => h
    · rintro e _ rfl
      exact fun _ _ h => h
  unfold createCollector
  refine within_bind hnew fun made => ?_
  split
  · exact within_pure _
  · exact within_bind dropCollector_keepsNoPool fun _ =>
      within_bind (fun _ _ _ h => h) fun _ => within_pure _

theorem lifecycle_keepsNoPool (ha : a.isLifecycle = true) : Within KeepsNoPool a.perform := by
  cases a with
  | create config notifies =>
    exact within_bind (createCollector_keepsNoPool config notifies) fun _ => within_pure _
  | createOrWarn config notifies =>
    refine within_bind (within_bind (createCollector_keepsNoPool config notifies) fun made => ?_)
      fun _ => within_pure _
    split
    · exact within_pure _
    · exact within_bind (warn_keepsNoPool _ nofun) fun _ => within_pure _
  | drop => exact within_bind dropCollector_keepsNoPool fun _ => within_pure _
  | _ => cases ha

theorem Aside.commands (hs : Aside s s') : ∃ gone, s.commands ~ s'.commands ++ gone := by
  -- Without registered commands only the appends under a token have commands left.
  have hnone : s'.collector.elim [] (·.registry.commands) = [] →
      ∃ gone, s.commands ~ s'.commands ++ gone := by
    intro hempty
    refine ⟨s.collector.elim [] (·.registry.commands), ?_⟩
    rw [Session.commands, Session.commands, hempty, hs.appends]
    exact List.perm_append_comm
  rcases Option.eq_none_or_eq_some s'.collector with hc | ⟨c, hc⟩
  · exact hnone (by rw [hc]; rfl)
  · rcases hs.collector c hc with hempty | hold
    · refine hnone ?_
      rw [hc]
      show c.registry.commands = []
      rw [hempty]
      rfl
    · refine ⟨[], .of_eq ?_⟩
      rw [commands_of hc, commands_of hold, hs.appends, List.append_nil]

namespace Entrusted

theorem tracing (h : s.Entrusted apart events pools) (hc : s.collector = some c) :
    ∃ lost, (s.tracing c).Custody apart events pools
      (c.registry.owned ++ (ownedOf (s.appends.values.map (·.command)) ++ lost)) := by
  obtain ⟨lost, hcustody⟩ := h.custody
  rw [commands_of hc, ownedOf_append, ← owned_eq_ownedOf, List.append_assoc] at hcustody
  exact ⟨lost, hcustody, h.no_event_kept, h.no_pool_kept⟩

theorem list (h : s.Entrusted apart events pools) (hc : s.collector = some c)
    {list : CommandListHandle} {info : CommandList}
    (found : c.registry.lists.get? list = some info) :
    ∃ owned, s.driver.Custody apart events pools (info.owned ++ owned) := by
  obtain ⟨lost, hcustody⟩ := h.tracing hc
  have hperm := (ownedIn_of_found found).append_right
    (ownedOf (s.appends.values.map (·.command)) ++ lost)
  rw [List.append_assoc] at hperm
  exact ⟨_, hcustody.driver.perm hperm⟩

theorem after (s : Session) (appends : Table Nat InFlightAppend) (submits : Table Nat SubmitToken)
    (h : ∃ lost, t.Custody apart events pools
      (t.registry.owned ++ (ownedOf (appends.values.map (·.command)) ++ lost))) :
    Entrusted apart { s.after t with appends, submits } events pools := by
  obtain ⟨lost, hcustody⟩ := h
  refine ⟨⟨lost, ?_⟩, hcustody.no_event_kept, hcustody.no_pool_kept⟩
  rw [commands_of rfl, ownedOf_append, ← owned_eq_ownedOf, List.append_assoc]
  exact hcustody.driver

/-- Commands that went may leave their events behind. -/
theorem less {gone : List Command} (h : s.Entrusted apart events pools)
    (hcommands : s.commands ~ s'.commands ++ gone) (hdriver : s.driver.Untouched s'.driver)
    (hevents : ∀ event e, Warning.eventKept event e ∈ s'.journal.warnings →
      Warning.eventKept event e ∈ s.journal.warnings)
    (hpools : KeepsNoPool s s') : s'.Entrusted apart events pools where
  custody := by
    obtain ⟨lost, hcustody⟩ := h.custody
    refine ⟨ownedOf gone ++ lost, (hcustody.untouched hdriver).perm ?_⟩
    rw [← List.append_assoc, ← ownedOf_append]
    exact (hcommands.filterMap _).append_right lost
  no_event_kept event e hkept := h.no_event_kept event e (hevents event e hkept)
  no_pool_kept ha pool e hkept := h.no_pool_kept ha pool e (hpools pool e hkept)

theorem fewer (h : s.Entrusted apart events pools) {appends : Table Nat InFlightAppend}
    {gone : List InFlightAppend} (happends : s.appends.values ~ appends.values ++ gone)
    (submits : Table Nat SubmitToken) :
    Entrusted apart { s with appends, submits } events pools := by
  have hcommands : s.commands ~
      commands { s with appends, submits } ++ gone.map (·.command) := by
    unfold commands
    rw [List.append_assoc, ← List.map_append]
    exact (happends.map _).append_left _
  exact h.less hcommands (refl_of Driver.Untouched s.driver) (fun _ _ hkept => hkept)
    fun _ _ hkept => hkept

theorem same_appends (h : s.Entrusted apart events pools) (submits : Table Nat SubmitToken) :
    Entrusted apart { s with submits } events pools :=
  h.fewer (.of_eq (List.append_nil _).symm) submits

theorem erase (h : s.Entrusted apart events pools) (token : Nat)
    (submits : Table Nat SubmitToken) :
    Entrusted apart { s with appends := s.appends.erase token, submits } events pools := by
  obtain ⟨gone, hgone⟩ := s.appends.values_erase_perm token
  exact h.fewer hgone submits

/-- A collector that was made has no commands, and one that is gone leaves its events to nobody. -/
theorem aside (h : s.Entrusted apart events pools) (hs : Aside s s') (hpools : KeepsNoPool s s') :
    s'.Entrusted apart events pools := by
  obtain ⟨gone, hcommands⟩ := hs.commands
  exact h.less hcommands hs.driver hs.warnings hpools

/-! ## Hooks -/

theorem subsides (h : s.Entrusted apart events pools) (hc : s.collector = some c)
    (ht : Subsides (s.tracing c) t) : Entrusted apart (s.after t) events pools := by
  obtain ⟨lost, hcustody⟩ := h.tracing hc
  exact after s s.appends s.submits ⟨lost, ht.custody _ _ _ _ hcustody⟩

theorem begun (h : s.Entrusted apart events pools) (hc : s.collector = some c) {token : Nat}
    {list : CommandListHandle} {op : Operation} {signal event : Option EventHandle}
    {append : InFlightAppend}
    (enter : Tracing.enterAppend list op signal (s.tracing c) = .ok ⟨some append, event⟩ t) :
    Entrusted apart { s.after t with appends := s.appends.insert token append } events pools := by
  -- A token may be used again: the append that had it before is dropped first.
  obtain ⟨lost, hcustody⟩ := (h.erase token s.submits).tracing hc
  have hentered := (enterAppend_custody hcustody list op signal).of_ok enter
  obtain ⟨driver, warnings, -, rfl⟩ := (enterAppend_within list op signal _).of_ok enter
  refine after s _ s.submits ⟨lost, hentered.perm ?_⟩
  have hvalues : (s.appends.insert token append).values ~
      append :: (s.appends.erase token).values := Table.values_insert_perm
  have howned : ownedOf ((s.appends.insert token append).values.map (·.command)) ~
      append.command.signal.owned?.toList ++
        ownedOf ((s.appends.erase token).values.map (·.command)) := by
    rw [← ownedOf_cons]
    exact (hvalues.map _).filterMap _
  refine List.Perm.trans ?_ ((howned.symm.append_right lost).append_left _)
  rw [List.append_assoc]
  exact List.perm_append_comm_assoc _ _ _

/-- An append that does not come about may leave the event that was made for it. -/
theorem unbegun (h : s.Entrusted apart events pools) (hc : s.collector = some c)
    (list : CommandListHandle) (op : Operation) (signal : Option EventHandle) :
    Entrusted apart (s.after (final (Tracing.enterAppend list op signal) (s.tracing c))) events
      pools := by
  obtain ⟨lost, hcustody⟩ := h.tracing hc
  have hends : Ends (Tracing.enterAppend list op signal) (s.tracing c)
      (fun _ t => ∃ made, t.Custody apart events pools (made ++ _))
      (fun _ t => ∃ made, t.Custody apart events pools (made ++ _)) :=
    (enterAppend_custody hcustody list op signal).imp (fun _ _ ht => ⟨_, ht⟩) fun _ _ ht => ht
  obtain ⟨made, hmade⟩ := hends.final
  obtain ⟨driver, warnings, -, ht⟩ := (enterAppend_within list op signal).final (s.tracing c)
  rw [ht] at hmade ⊢
  refine after s s.appends s.submits ⟨made ++ lost, hmade.perm ?_⟩
  refine (List.perm_append_comm_assoc _ _ _).trans (.append_left _ ?_)
  exact List.perm_append_comm_assoc _ _ _

/-- An append ends: its event goes to the registered command, is destroyed, or is lost. -/
theorem ended (h : s.Entrusted apart events pools) (hc : s.collector = some c) {token : Nat}
    {append : InFlightAppend} (found : s.appends.get? token = some append) (r : DriverResult) :
    Entrusted apart { s.after (final (Tracing.exitAppend append r) (s.tracing c)) with
      appends := s.appends.erase token } events pools := by
  obtain ⟨lost, hcustody⟩ := h.tracing hc
  have hfound : (s.tracing c).Custody apart events pools ((s.tracing c).registry.owned ++
      (append.command.signal.owned?.toList ++
        (ownedOf ((s.appends.erase token).values.map (·.command)) ++ lost))) := by
    refine hcustody.perm (.append_left _ ?_)
    rw [← List.append_assoc, ← ownedOf_cons]
    exact (((Table.values_perm found).map _).filterMap _).append_right lost
  obtain ⟨gone, hgone⟩ := (exitAppend_custody hfound r).final
  refine after s _ s.submits ⟨gone ++ lost, hgone.perm ?_⟩
  exact .append_left _ (List.perm_append_comm_assoc _ _ _)

theorem executed (h : s.Entrusted apart events pools) (hc : s.collector = some c)
    {submit : SubmitToken} (r : DriverResult) (submits : Table Nat SubmitToken) :
    Entrusted apart { s.after (final (Tracing.exitExecute submit r) (s.tracing c)) with submits }
      events pools := by
  obtain ⟨lost, hcustody⟩ := h.tracing hc
  have hplain : Within (ViaRegistry (·.isPlain = true)) (Tracing.exitExecute submit r) :=
    exitExecute_within submit r (fun _ => rfl) fun _ _ _ _ => rfl
  have hkeeps := (hplain.final (s.tracing c)).keepsCustody
  exact after s s.appends submits ⟨lost, hkeeps _ _ _ _ hcustody⟩

theorem turn {result : Except Fault Answer} (h : s.Entrusted apart events pools)
    (hturn : Turn s a result s') : s'.Entrusted apart events pools := by
  cases hturn with
  | @idle a result appends submits quiet appends_from =>
    rcases appends_from with rfl | ⟨token, rfl⟩
    · exact h.same_appends submits
    · exact h.erase token submits
  | hooked _ at_work subsides => exact h.subsides at_work subsides
  | begun at_work enter => exact h.begun at_work enter
  | unbegun _ at_work => exact h.unbegun at_work _ _ _
  | ended _ at_work found => exact h.ended at_work found _
  | @planned token queue lists c submit => exact h.same_appends (s.submits.insert token submit)
  | executed _ at_work => exact h.executed at_work _ _

end Entrusted

end Session

namespace Ledger

open Session

variable {apart : Prop} {l : Ledger} {a : Action}

/-- The application acts: it destroys nothing of the tracer's, and makes no event in the tracer's
pools if the two keep apart. -/
theorem entrusted_outside (ha : a.isOutside = true) (hspares : l.spares a = true)
    (hapart : apart → l.keepsApart a = true)
    (h : l.session.Entrusted apart l.events l.pools) :
    (l.next a).session.Entrusted apart (l.next a).events (l.next a).pools := by
  obtain ⟨driver, now, evolves, hs⟩ := step_within (s := l.session) (outside_within a ha)
  unfold next
  rw [after_outside ha, hs]
  obtain ⟨lost, hcustody⟩ := h.custody
  refine ⟨⟨lost, ?_⟩, h.no_event_kept, h.no_pool_kept⟩
  refine hcustody.evolves evolves (fun _ => spares_destroys hspares)
    (fun _ => spares_drops hspares) fun hap pool hL halive => ?_
  obtain rfl := fills_license hL
  have := hapart hap
  simpa [keepsApart, show l.session.driver.pools.contains pool = true from halive] using this

theorem entrusted_next (hspares : l.spares a = true) (hapart : apart → l.keepsApart a = true)
    (h : l.session.Entrusted apart l.events l.pools) :
    (l.next a).session.Entrusted apart (l.next a).events (l.next a).pools := by
  cases hout : a.isOutside with
  | true => exact entrusted_outside hout hspares hapart h
  | false =>
    rw [(next_own hout).1, (next_own hout).2]
    cases hlife : a.isLifecycle with
    | true =>
      exact h.aside (step_within (lifecycle_aside hlife))
        (step_within (lifecycle_keepsNoPool hlife))
    | false => exact h.turn (step_turn hout hlife)

theorem entrusted_of {d : Driver} (hd : d.Numbered) (now : UInt64) :
    Entrusted apart (Session.of d now) d.events.keys d.pools.keys where
  custody := ⟨[], hd.custody⟩
  no_event_kept event e := by simp [Session.of, Journal.empty]
  no_pool_kept _ pool e := by simp [Session.of, Journal.empty]

end Ledger

end GpuTrace
