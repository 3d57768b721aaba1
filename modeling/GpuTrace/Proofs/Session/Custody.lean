import GpuTrace.Proofs.Collector.Custody
import GpuTrace.Proofs.Session.Deed
import GpuTrace.Proofs.Session.Touch

/-!
# Custody over a run — no leak, nothing destroyed twice

A `Ledger` is a session together with what its application holds: the live events and
pools that are its own, and the appends in flight. In a faultless run in which the
application destroys nothing but its own, what is alive is the application's or belongs to
a registered command or to an append in flight, never to two of them. So what the tracer
made is destroyed once, and what the application made never by the tracer.

For pools this takes an application that makes no events in the tracer's pools; for events
it does not (`pools_unaccounted_crowded`).

`Ledger.Custody` is the invariant, `Deed.custody` keeps it, and
`events_and_pools_accounted` is the main fact.
-/

namespace GpuTrace

open Fallible Tracing Registry Session
open scoped List

/-- A session with what the application holds. -/
structure Ledger where
  session : Session
  /-- The application's live events. -/
  events : List EventHandle
  pools : List EventPoolHandle
  /-- Appends that were begun and have not ended, also those whose token was overwritten. -/
  appends : List InFlightAppend

namespace Ledger

def of (s : Session) : Ledger where
  session := s
  events := s.driver.events.keys
  pools := s.driver.pools.keys
  appends := []

def appendsAfter (l : Ledger) : Action → Except Fault Answer → List InFlightAppend
  | .enterAppend .., .ok (.append answer) => l.appends ++ answer.inFlight.toList
  | .exitAppend token _, _ => (l.session.appends.get? token).elim l.appends l.appends.erase
  | _, _ => l.appends

/-- The ledger after an action that led to `s`. What became alive as the application acted
is its own. -/
def after (l : Ledger) (a : Action) (answer : Except Fault Answer) (s : Session) : Ledger where
  session := s
  events := if a.isOutside then
    Driver.ownAfter l.events l.session.driver.events.keys s.driver.events.keys else l.events
  pools := if a.isOutside then
    Driver.ownAfter l.pools l.session.driver.pools.keys s.driver.pools.keys else l.pools
  appends := l.appendsAfter a answer

def next (l : Ledger) (a : Action) : Ledger :=
  l.after a (l.session.step a).1 (l.session.step a).2

def run (l : Ledger) (actions : List Action) : Ledger :=
  actions.foldl next l

def spares (l : Ledger) : Action → Bool
  | .destroyEvent event => !l.session.driver.isAlive event || l.events.contains event
  | .destroyPool pool => !l.session.driver.pools.contains pool || l.pools.contains pool
  | _ => true

def keepsApart (l : Ledger) : Action → Bool
  | .createEvent pool => !l.session.driver.pools.contains pool || l.pools.contains pool
  | _ => true

/-- The action ends with an answer and destroys nothing of the tracer's. -/
def Conducts (l : Ledger) (a : Action) : Prop :=
  Serves l.session a ∧ l.spares a = true

instance (l : Ledger) (a : Action) : Decidable (l.Conducts a) :=
  inferInstanceAs (Decidable (_ ∧ _))

/-- The pools and events that the tracer has to destroy: those of the registered commands and
of the appends in flight. -/
def owned (l : Ledger) (c : Collector) : List (EventPoolHandle × EventHandle) :=
  c.registry.owned ++ ownedOf (l.appends.map (·.command))

/-- Everything alive is in custody, and every token stands for an append in flight. -/
structure Custody (apart : Prop) (l : Ledger) (c : Collector) : Prop where
  at_work : l.session.collector = some c
  wellFormed : c.registry.WellFormed
  tokens : ∃ lost, l.appends ~ l.session.appends.values ++ lost
  custody : (l.session.tracing c).Custody apart l.events l.pools (l.owned c)

variable {apart : Prop} {l : Ledger} {s s' : Session} {c : Collector} {a : Action}
  {answer : Except Fault Answer}

theorem run_session (l : Ledger) (actions : List Action) :
    (l.run actions).session = l.session.run actions := by
  induction actions generalizing l with
  | nil => rfl
  | cons a actions ih => exact ih (l.next a)

theorem after_outside (ha : a.isOutside = true) :
    l.after a answer s = { l with
      session := s
      events := Driver.ownAfter l.events l.session.driver.events.keys s.driver.events.keys
      pools := Driver.ownAfter l.pools l.session.driver.pools.keys s.driver.pools.keys } := by
  cases a <;> first | rfl | cases ha

theorem after_hook (ha : a.isHook = true) : l.after a answer s = { l with session := s } := by
  cases a <;> first | rfl | cases ha

/-! ## Tokens -/

theorem Custody.mem_appends (h : l.Custody apart c) {token : Nat} {append : InFlightAppend}
    (found : l.session.appends.get? token = some append) : append ∈ l.appends := by
  obtain ⟨lost, hperm⟩ := h.tokens
  rw [hperm.mem_iff, (Table.values_perm found).append_right lost |>.mem_iff]
  exact List.mem_cons_self

theorem Custody.tokens_erase (h : l.Custody apart c) {token : Nat} {append : InFlightAppend}
    (found : l.session.appends.get? token = some append) :
    ∃ lost, l.appends.erase append ~ (l.session.appends.erase token).values ++ lost := by
  obtain ⟨lost, hperm⟩ := h.tokens
  have := (hperm.trans ((Table.values_perm found).append_right lost)).erase append
  rw [List.cons_append, List.erase_cons_head] at this
  exact ⟨lost, this⟩

theorem Custody.tokens_insert (h : l.Custody apart c) (token : Nat) (append : InFlightAppend) :
    ∃ lost, l.appends ++ [append] ~
      (l.session.appends.insert token append).values ++ lost := by
  obtain ⟨lost, hperm⟩ := h.tokens
  obtain ⟨old, hold⟩ := l.session.appends.values_erase_perm token
  refine ⟨old ++ lost, ?_⟩
  calc l.appends ++ [append] ~ append :: l.appends := List.perm_append_singleton _ _
    _ ~ append :: ((l.session.appends.erase token).values ++ old ++ lost) :=
      (hperm.trans (hold.append_right lost)).cons _
    _ ~ (l.session.appends.insert token append).values ++ (old ++ lost) := by
      rw [List.append_assoc]
      exact (Table.values_insert_perm.append_right _).symm

theorem Custody.owned_perm (h : l.Custody apart c) {token : Nat} {append : InFlightAppend}
    (found : l.session.appends.get? token = some append) :
    l.owned c ~ append.command.signal.owned?.toList ++
      (c.registry.owned ++ ownedOf ((l.appends.erase append).map (·.command))) := by
  have hperm := (List.perm_cons_erase (h.mem_appends found)).map (·.command)
  have howned : ownedOf (l.appends.map (·.command)) ~ append.command.signal.owned?.toList ++
      ownedOf ((l.appends.erase append).map (·.command)) := by
    rw [← ownedOf_cons]
    exact hperm.filterMap _
  refine (howned.append_left _).trans ?_
  rw [← List.append_assoc, ← List.append_assoc]
  exact List.perm_append_comm.append_right _

/-! ## Steps -/

theorem destroys_license {event : EventHandle} (h : a.license.destroys event) :
    a = .destroyEvent event := by
  cases a <;> first | exact h.elim | exact congrArg _ h.symm

theorem drops_license {pool : EventPoolHandle} (h : a.license.drops pool) :
    a = .destroyPool pool := by
  cases a <;> first | exact h.elim | exact congrArg _ h.symm

theorem fills_license {pool : EventPoolHandle} (h : a.license.fills pool) :
    a = .createEvent pool := by
  cases a <;> first | exact h.elim | exact congrArg _ h.symm

theorem spares_destroys (hspares : l.spares a = true) {event : EventHandle}
    (h : a.license.destroys event) (halive : l.session.driver.isAlive event = true) :
    event ∈ l.events := by
  obtain rfl := destroys_license h
  simpa [spares, halive] using hspares

theorem spares_drops (hspares : l.spares a = true) {pool : EventPoolHandle}
    (h : a.license.drops pool) (halive : l.session.driver.pools.contains pool = true) :
    pool ∈ l.pools := by
  obtain rfl := drops_license h
  simpa [spares, halive] using hspares

theorem Custody.outside (h : l.Custody apart c) (ha : a.isOutside = true)
    (hspares : l.spares a = true) (hapart : apart → l.keepsApart a = true) {driver : Driver}
    {now : UInt64} (evolves : l.session.driver.Evolves a.license driver) :
    (l.after a answer { l.session with driver, now }).Custody apart c := by
  rw [after_outside ha]
  refine ⟨h.at_work, h.wellFormed, h.tokens, h.custody.moved ?_ rfl⟩
  refine h.custody.driver.evolves evolves (fun _ => spares_destroys hspares)
    (fun _ => spares_drops hspares) fun hap pool hL halive => ?_
  obtain rfl := fills_license hL
  have := hapart hap
  simpa [keepsApart, show l.session.driver.pools.contains pool = true from halive] using this

theorem Custody.hook (h : l.Custody apart c) (ha : a.isHook = true) {t : Tracing}
    (submits : Table Nat SubmitToken) (hwf : t.registry.WellFormed)
    (ht : t.Custody apart l.events l.pools
      (t.registry.owned ++ ownedOf (l.appends.map (·.command)))) :
    (l.after a answer { l.session.after t with submits }).Custody apart t.collector := by
  rw [after_hook ha]
  exact ⟨rfl, hwf, h.tokens, ht.same rfl rfl⟩

theorem owned_begin (l : Ledger) (c : Collector) (inFlight : Option InFlightAppend) :
    (inFlight.bind (·.command.signal.owned?)).toList ++ l.owned c ~
      c.registry.owned ++ ownedOf ((l.appends ++ inFlight.toList).map (·.command)) := by
  have hnew : ownedOf (inFlight.toList.map (·.command)) =
      (inFlight.bind (·.command.signal.owned?)).toList := by
    cases inFlight with
    | none => rfl
    | some append =>
      show ownedOf [append.command] = _
      rw [ownedOf_cons]
      exact List.append_nil _
  rw [List.map_append, ownedOf_append, hnew, ← List.append_assoc]
  exact List.perm_append_comm

theorem Custody.entered (h : l.Custody apart c) {token : Nat} {list : CommandListHandle}
    {op : Operation} {signal : Option EventHandle} {answer : AppendAnswer} {t : Tracing}
    (enter : enterAppend list op signal (l.session.tracing c) = .ok answer t) :
    (l.after (.enterAppend token list op signal) (.ok (.append answer)) { l.session.after t with
      appends := match answer.inFlight with
        | some append => l.session.appends.insert token append
        | none => l.session.appends }).Custody apart c := by
  have ht := ((enterAppend_custody h.custody list op signal).of_ok enter).perm
    (owned_begin l c answer.inFlight)
  obtain ⟨driver, warnings, -, rfl⟩ := (enterAppend_within list op signal _).of_ok enter
  refine ⟨rfl, h.wellFormed, ?_, ht.same rfl rfl⟩
  show ∃ lost, l.appends ++ answer.inFlight.toList ~
    (match answer.inFlight with
      | some append => l.session.appends.insert token append
      | none => l.session.appends).values ++ lost
  cases answer.inFlight with
  | none => simpa using h.tokens
  | some append => exact h.tokens_insert token append

/-- An append ends: its token and its event are out of the application's hands. -/
theorem Custody.exited (h : l.Custody apart c) {token : Nat} {append : InFlightAppend}
    {result : DriverResult} (found : l.session.appends.get? token = some append) {t : Tracing}
    (hwf : t.registry.WellFormed)
    (ht : t.Custody apart l.events l.pools
      (t.registry.owned ++ ownedOf ((l.appends.erase append).map (·.command)))) :
    (l.after (.exitAppend token result) answer { l.session.after t with
      appends := l.session.appends.erase token }).Custody apart t.collector := by
  have hafter : ∀ s, l.after (.exitAppend token result) answer s =
      { l with session := s, appends := l.appends.erase append } := by
    intro s
    simp [after, appendsAfter, found, Action.isOutside]
  rw [hafter]
  exact ⟨rfl, hwf, h.tokens_erase found, ht.same rfl rfl⟩

end Ledger

namespace Session

variable {apart : Prop} {l : Ledger} {s' : Session} {c : Collector} {a : Action} {answer : Answer}

theorem Deed.custody (hd : Deed l.session c a answer s') (h : l.Custody apart c)
    (hspares : l.spares a = true) (hapart : apart → l.keepsApart a = true) :
    ∃ c', (l.after a (.ok answer) s').Custody apart c' := by
  cases hd with
  | outside ha evolves => exact ⟨c, h.outside ha hspares hapart evolves⟩
  | @toggled enabled answer on =>
    have hcustody := h.custody.driver.untouched (Driver.setEnabled_untouched c.tracer enabled)
    refine ⟨_, h.hook (a := .setEnabled enabled) (t := { l.session.tracing c with
      driver := (l.session.driver.setEnabled c.tracer enabled).2
      collector := { c with enabled := on } }) rfl l.session.submits h.wellFormed ?_⟩
    exact h.custody.moved hcustody rfl
  | noted ha submits changes =>
    obtain ⟨r, hr, rfl⟩ := changes
    have hperm : l.owned c ~ r.owned ++ ownedOf (l.appends.map (·.command)) :=
      hr.owned_plain.symm.append_right _
    have hwf : r.WellFormed := h.wellFormed.reaches hr
    exact ⟨_, h.hook ha submits hwf ((h.custody.perm hperm).same rfl rfl)⟩
  | @idle token result answer absent =>
    have hafter : l.after (.exitAppend token result) (.ok answer) l.session = l := by
      simp [Ledger.after, Ledger.appendsAfter, absent, Action.isOutside]
    rw [hafter]
    exact ⟨c, h⟩
  | entered token enter => exact ⟨c, h.entered enter⟩
  | @registered token append answer t found registers =>
    obtain ⟨r₁, r₂, happend, hcall, rfl⟩ := registers
    have hperm : l.owned c ~
        r₂.owned ++ ownedOf ((l.appends.erase append).map (·.command)) := by
      refine (h.owned_perm found).trans ?_
      rw [← List.append_assoc]
      refine (happend.owned_append.symm.append_right _).trans ?_
      rcases hcall with rfl | ⟨call, hcall⟩
      · exact .refl _
      · exact (hcall.owned_plain rfl).symm.append_right _
    have hwf : r₂.WellFormed := by
      have hwf₁ := h.wellFormed.move happend
      rcases hcall with rfl | ⟨call, hcall⟩
      · exact hwf₁
      · exact hwf₁.move hcall
    exact ⟨_, h.exited found hwf ((h.custody.perm hperm).same rfl rfl)⟩
  | @refused token append answer e t found released =>
    have ht := (releaseCommand_custody (h.custody.perm (h.owned_perm found))).of_ok released
    obtain ⟨driver, warnings, -, rfl⟩ := (releaseCommand_within append.command _).of_ok released
    exact ⟨_, h.exited found h.wellFormed ht⟩
  | @completed _ _ finished t₁ t₂ ha settles told =>
    obtain ⟨calls, pending, p, -, rfl, hsub, -⟩ := settles
    obtain ⟨notices, ht₂, -⟩ := (notify_ends finished).of_ok told
    have hwf : t₂.registry.WellFormed := by
      rw [ht₂]
      exact h.wellFormed.settle hsub
    refine ⟨_, h.hook ha l.session.submits hwf ?_⟩
    rw [ht₂]
    exact h.custody.same rfl rfl
  | @freed _ _ list change info finished t₁ r t₂ t₃ ha settles found hc move told released =>
    obtain ⟨calls, pending, p, -, rfl, hsub, -⟩ := settles
    obtain ⟨notices, ht₂, -⟩ := (notify_ends finished).of_ok told
    have hperm : l.owned c ~
        info.owned ++ (r.owned ++ ownedOf (l.appends.map (·.command))) := by
      rw [← List.append_assoc]
      exact (move.owned_frees hc found).append_right _
    have hcustody : t₂.Custody apart l.events l.pools
        (info.owned ++ (r.owned ++ ownedOf (l.appends.map (·.command)))) := by
      rw [ht₂]
      exact (h.custody.perm hperm).same rfl rfl
    have hcustody₃ := (releaseCommands_custody hcustody).of_ok released
    obtain ⟨driver, warnings, -, ht₃⟩ := (releaseCommands_within _ _).of_ok released
    have hregistry : t₃.registry = r := by
      rw [ht₃, ht₂]
      rfl
    have hwf : t₃.registry.WellFormed := by
      rw [hregistry]
      exact (h.wellFormed.settle hsub).move move
    refine ⟨_, h.hook (Action.isHook_of_teardown ha) l.session.submits hwf ?_⟩
    rw [hregistry]
    exact hcustody₃

end Session

/-! ## Runs -/

namespace Ledger

variable {apart : Prop} {l : Ledger} {c c' : Collector} {a : Action} {actions : List Action}
  {event : EventHandle} {pool : EventPoolHandle}

theorem Custody.step (h : l.Custody apart c) (hc : l.Conducts a)
    (hapart : apart → l.keepsApart a = true) : ∃ c', (l.next a).Custody apart c' := by
  obtain ⟨⟨ha, answer, hok⟩, hspares⟩ := hc
  have hcustody := (step_deed h.at_work h.wellFormed ha hok).custody h hspares hapart
  unfold next
  rwa [hok]

theorem Custody.run (h : l.Custody apart c) (hrun : Along next Conducts l actions)
    (hapart : apart → Along next (fun l a => l.keepsApart a = true) l actions) :
    ∃ c', (l.run actions).Custody apart c' := by
  induction actions generalizing l c with
  | nil => exact ⟨c, h⟩
  | cons a actions ih =>
    obtain ⟨c', h'⟩ := h.step hrun.1 fun ha => (hapart ha).1
    exact ih h' hrun.2 fun ha => (hapart ha).2

theorem next_evolves (l : Ledger) (a : Action) :
    l.session.driver.Evolves .any (l.next a).session.driver :=
  run_evolves [a]

theorem run_induct {I : Ledger → Prop} (hl : I l) (hnext : ∀ l a, I l → I (l.next a))
    (actions : List Action) : I (l.run actions) := by
  induction actions generalizing l with
  | nil => exact hl
  | cons a actions ih => exact ih (hnext l a hl)

/-- An event that is not the application's does not become its own: it is alive already, or
its handle was given before and it is gone. -/
theorem not_own_next (hgiven : event.raw ≤ l.session.driver.lastHandle) (hnot : event ∉ l.events)
    (a : Action) : event ∉ (l.next a).events := by
  show event ∉ ite _ _ _
  split
  · refine Driver.not_mem_ownAfter hnot ?_
    rw [Driver.mem_events_keys, Driver.mem_events_keys, Bool.not_eq_true, Bool.not_eq_true]
    exact (l.next_evolves a).gone hgiven
  · exact hnot

theorem pool_not_own_next (hgiven : pool.raw ≤ l.session.driver.lastHandle) (hnot : pool ∉ l.pools)
    (a : Action) : pool ∉ (l.next a).pools := by
  show pool ∉ ite _ _ _
  split
  · refine Driver.not_mem_ownAfter hnot ?_
    rw [Driver.mem_pools_keys, Driver.mem_pools_keys, Bool.not_eq_true, Bool.not_eq_true]
    exact (l.next_evolves a).pool_gone hgiven
  · exact hnot

theorem not_own_run (hgiven : event.raw ≤ l.session.driver.lastHandle) (hnot : event ∉ l.events)
    (actions : List Action) : event ∉ (l.run actions).events := by
  have hrun := run_induct (I := fun l => event.raw ≤ l.session.driver.lastHandle ∧ event ∉ l.events)
    ⟨hgiven, hnot⟩ (fun l a ⟨hgiven, hnot⟩ =>
      ⟨Nat.le_trans hgiven (l.next_evolves a).mono, not_own_next hgiven hnot a⟩) actions
  exact hrun.2

theorem pool_not_own_run (hgiven : pool.raw ≤ l.session.driver.lastHandle) (hnot : pool ∉ l.pools)
    (actions : List Action) : pool ∉ (l.run actions).pools := by
  have hrun := run_induct (I := fun l => pool.raw ≤ l.session.driver.lastHandle ∧ pool ∉ l.pools)
    ⟨hgiven, hnot⟩ (fun l a ⟨hgiven, hnot⟩ =>
      ⟨Nat.le_trans hgiven (l.next_evolves a).mono, pool_not_own_next hgiven hnot a⟩) actions
  exact hrun.2

/-- What is alive is the application's or the tracer's to destroy, nothing is in two hands,
and the driver refused no destruction. -/
structure Accounted {α : Type} (kept : α → DriverError → Warning) (journal : Journal)
    (live own owned : List α) : Prop where
  live_perm : live ~ own ++ owned
  distinct : (own ++ owned).Nodup
  none_kept : ∀ x e, kept x e ∉ journal.warnings

namespace Accounted

variable {α : Type} {kept : α → DriverError → Warning} {j j' : Journal}
  {live live' own own' owned owned' : List α} {x : α}

theorem own_alive (h : Accounted kept j live own owned) (hx : x ∈ own) : x ∈ live :=
  h.live_perm.mem_iff.mpr (List.mem_append_left _ hx)

/-- What the tracer has is still in its hands later, or it is gone. -/
theorem later (h : Accounted kept j live own owned) (h' : Accounted kept j' live' own' owned')
    (hx : x ∈ owned) (hnot : x ∈ live → x ∉ own → x ∉ own') : x ∈ owned' ∨ x ∉ live' := by
  have halive : x ∈ live := h.live_perm.mem_iff.mpr (List.mem_append_right _ hx)
  have hother : x ∉ own := fun hown => (List.nodup_append.mp h.distinct).2.2 x hown x hx rfl
  by_cases hx' : x ∈ live'
  · have hmem := h'.live_perm.mem_iff.mp hx'
    exact .inl ((List.mem_append.mp hmem).resolve_left (hnot halive hother))
  · exact .inr hx'

end Accounted

def EventsAccounted (l : Ledger) (c : Collector) : Prop :=
  Accounted .eventKept l.session.journal l.session.driver.events.keys l.events
    ((l.owned c).map Prod.snd)

def PoolsAccounted (l : Ledger) (c : Collector) : Prop :=
  Accounted .poolKept l.session.journal l.session.driver.pools.keys l.pools
    ((l.owned c).map Prod.fst)

theorem Custody.eventsAccounted (h : l.Custody apart c) : l.EventsAccounted c :=
  ⟨h.custody.driver.events_perm, h.custody.driver.events_nodup, h.custody.no_event_kept⟩

theorem Custody.poolsAccounted (h : l.Custody apart c) (ha : apart) : l.PoolsAccounted c :=
  ⟨h.custody.driver.pools_perm ha, h.custody.driver.pools_nodup ha, h.custody.no_pool_kept ha⟩

theorem Custody.event_later (h : l.Custody apart c) (h' : (l.run actions).Custody apart c')
    (hevent : event ∈ (l.owned c).map Prod.snd) :
    event ∈ ((l.run actions).owned c').map Prod.snd ∨
      event ∉ (l.run actions).session.driver.events.keys := by
  refine h.eventsAccounted.later h'.eventsAccounted hevent fun halive hnot => ?_
  obtain ⟨st, hst⟩ := Driver.isAlive_iff.mp (Driver.mem_events_keys.mp halive)
  exact not_own_run (h.custody.driver.numbered.event_le _ st hst) hnot actions

theorem Custody.pool_later (h : l.Custody apart c) (h' : (l.run actions).Custody apart c')
    (ha : apart) (hpool : pool ∈ (l.owned c).map Prod.fst) :
    pool ∈ ((l.run actions).owned c').map Prod.fst ∨
      pool ∉ (l.run actions).session.driver.pools.keys := by
  refine (h.poolsAccounted ha).later (h'.poolsAccounted ha) hpool fun halive hnot => ?_
  have hcontains := Driver.mem_pools_keys.mp halive
  exact pool_not_own_run (h.custody.driver.numbered.pool_le _ hcontains) hnot actions

theorem owned_eq_nil (hlists : c.listCount = 0) (happends : l.appends = []) : l.owned c = [] := by
  have hentries : c.registry.lists.entries = [] := List.eq_nil_of_length_eq_zero hlists
  simp [owned, Registry.owned, ownedIn, Table.values, hentries, happends, ownedOf]

theorem next_own (ha : a.isOutside = false) :
    (l.next a).events = l.events ∧ (l.next a).pools = l.pools := by
  simp [next, after, ha]

theorem Custody.along (h : l.Custody apart c) {mid later : List Action}
    (hrun : Along next Conducts l (mid ++ later))
    (hapart : apart → Along next (fun l a => l.keepsApart a = true) l (mid ++ later)) :
    ∃ c₁ c₂, (l.run mid).Custody apart c₁ ∧ ((l.run mid).run later).Custody apart c₂ ∧
      ∀ a, later.head? = some a → ∃ c₃, ((l.run mid).next a).Custody apart c₃ := by
  obtain ⟨hmid, hlater⟩ := (along_append mid later).mp hrun
  have hapart₁ := fun ha => ((along_append mid later).mp (hapart ha)).1
  have hapart₂ := fun ha => ((along_append mid later).mp (hapart ha)).2
  obtain ⟨c₁, h₁⟩ := h.run hmid hapart₁
  obtain ⟨c₂, h₂⟩ := h₁.run hlater hapart₂
  refine ⟨c₁, c₂, h₁, h₂, ?_⟩
  intro a hhead
  cases later with
  | nil => cases hhead
  | cons b later =>
    cases hhead
    exact h₁.step hlater.1 fun ha => (hapart₂ ha).1

theorem custody_of_creates (apart : Prop) {version : ApiVersion} {backend : Backend} {now : UInt64}
    {setup : List Action} {config : Config} {notifies : Bool} {created : Session}
    (hsetup : ∀ a ∈ setup, a.isOutside = true)
    (hborn : Creates config notifies ((Session.of (.of version backend) now).run setup) created) :
    ∃ c, (of created).Custody apart c := by
  obtain ⟨driver, now', hd, hs⟩ := run_outside (s := Session.of (.of version backend) now) hsetup
  rw [hs] at hborn
  obtain ⟨c, driver', warnings, hnew, hd', hwarnings, rfl⟩ := hborn.replaced
  have hnumbered := hd'.numbered (hd.numbered (Driver.numbered_of version backend))
  have hnone : warnings = #[] := hwarnings rfl
  have howned : ∀ s, owned (of s) c = [] := fun s =>
    owned_eq_nil (by rw [Collector.listCount, hnew.registry_eq]; rfl) rfl
  refine ⟨c, rfl, ?_, ⟨[], .refl _⟩, ?_, ?_, ?_⟩
  · rw [hnew.registry_eq]
    exact wellFormed_empty
  · rw [howned]
    exact hnumbered.custody
  · intro event e
    simp [of, tracing, hnone]
  · intro ha pool e
    simp [of, tracing, hnone]

/-- **No leak, nothing destroyed twice, borrowed events untouched.** In a faultless run of a
collector in which the application destroys nothing but its own, the live events are at
every point the application's and those of registered commands and appends in flight, all
different, and without lists and appends there are none of the latter. What the tracer
has it keeps or destroys for good, never in vain, and a hook destroys nothing of the
application's. The same goes for pools if the application makes no events in the tracer's. -/
theorem events_and_pools_accounted (version : ApiVersion) (backend : Backend) (now : UInt64)
    (setup actions : List Action) (config : Config) (notifies : Bool) (created : Session)
    (hsetup : ∀ a ∈ setup, a.isOutside = true)
    (hborn : Creates config notifies ((Session.of (.of version backend) now).run setup) created)
    (hrun : Along next Conducts (of created) actions) :
    ∀ mid later, actions = mid ++ later →
      let l := (of created).run mid
      let l' := l.run later
      l.session = created.run mid ∧ l'.session = created.run actions ∧
      ∃ c c', l.session.collector = some c ∧ l'.session.collector = some c' ∧
        (c.listCount = 0 → l.appends = [] → l.owned c = []) ∧
        l.EventsAccounted c ∧
        (∀ event ∈ (l.owned c).map Prod.snd,
          event ∈ (l'.owned c').map Prod.snd ∨ event ∉ l'.session.driver.events.keys) ∧
        (∀ a, later.head? = some a → a.isOutside = false →
          ∀ event ∈ l.events, event ∈ (l.next a).session.driver.events.keys) ∧
        (Along next (fun l a => l.keepsApart a = true) (of created) actions →
          l.PoolsAccounted c ∧
          (∀ pool ∈ (l.owned c).map Prod.fst,
            pool ∈ (l'.owned c').map Prod.fst ∨ pool ∉ l'.session.driver.pools.keys) ∧
          ∀ a, later.head? = some a → a.isOutside = false →
            ∀ pool ∈ l.pools, pool ∈ (l.next a).session.driver.pools.keys) := by
  rintro mid later rfl l l'
  obtain ⟨c₀, h₀⟩ := custody_of_creates False hsetup hborn
  obtain ⟨c, c', h, h', hnext⟩ := h₀.along hrun False.elim
  have hsession : l'.session = created.run (mid ++ later) := by
    rw [run_session, run_session, Session.run_append]
    rfl
  refine ⟨run_session _ mid, hsession, c, c', h.at_work, h'.at_work, owned_eq_nil,
    h.eventsAccounted, ?_, ?_, ?_⟩
  · exact fun event hevent => h.event_later h' hevent
  · intro a hhead ha event hevent
    obtain ⟨c₃, h₃⟩ := hnext a hhead
    exact h₃.eventsAccounted.own_alive (by rwa [(next_own ha).1])
  · -- the same again, now with the pools in custody too
    intro hapart
    obtain ⟨c₀, h₀⟩ := custody_of_creates True hsetup hborn
    obtain ⟨c₁, c₁', h₁, h₁', hnext⟩ := h₀.along hrun fun _ => hapart
    obtain rfl := Option.some.inj (h.at_work.symm.trans h₁.at_work)
    obtain rfl := Option.some.inj (h'.at_work.symm.trans h₁'.at_work)
    refine ⟨h₁.poolsAccounted trivial, fun pool hpool => h₁.pool_later h₁' trivial hpool, ?_⟩
    intro a hhead ha pool hpool
    obtain ⟨c₃, h₃⟩ := hnext a hhead
    exact (h₃.poolsAccounted trivial).own_alive (by rwa [(next_own ha).2])

def lent : Session :=
  (((Session.of .standard 7).run [.addDevice 1000 0, .newEvent]).step (.create .default false)).2

/-- One append with an event of its own, one with the application's, one for which no event
can be made, and one that the driver refuses; then the list is destroyed. -/
def appendedFourTimes : List Action :=
  [.exitListCreate ⟨9⟩ ⟨8⟩ ⟨1⟩ false (.ok ()), .enterAppend 0 ⟨9⟩ .barrier none,
    .exitAppend 0 (.ok ()), .enterAppend 1 ⟨9⟩ .barrier (some ⟨3⟩), .exitAppend 1 (.ok ()),
    .failEvent 7, .enterAppend 2 ⟨9⟩ .barrier none, .enterAppend 3 ⟨9⟩ .barrier none,
    .exitAppend 3 (.error ⟨"zeCommandListAppendBarrier", 7⟩), .exitListDestroy ⟨9⟩ (.ok ())]

/-- In the end only the application's event and its pool are left. -/
theorem events_and_pools_accounted_appendedFourTimes :
    (lent.run appendedFourTimes).driver.events.keys ~ [⟨3⟩] ∧
      (lent.run appendedFourTimes).driver.pools.keys ~ [⟨2⟩] := by
  have hborn : Creates .default false
      ((Session.of .standard 7).run [.addDevice 1000 0, .newEvent]) lent :=
    .create (Prod.ext (by decide +kernel) rfl)
  have hrun : Along next Conducts (of lent) appendedFourTimes := by decide +kernel
  have hapart : Along next (fun l a => l.keepsApart a = true) (of lent) appendedFourTimes := by
    decide +kernel
  obtain ⟨hsession, -, c, c', hc, -, hnone, hevents, -, -, hpools⟩ :=
    events_and_pools_accounted ⟨1, 2⟩ .computeDriver 7 [.addDevice 1000 0, .newEvent]
      appendedFourTimes .default false lent (by decide) hborn hrun appendedFourTimes []
      (List.append_nil _).symm
  have hlists : ((of lent).run appendedFourTimes).session.collector.map (·.listCount) = some 0 := by
    decide +kernel
  have hlists : c.listCount = 0 := by simpa [hc] using hlists
  have happends : ((of lent).run appendedFourTimes).appends = [] := by decide +kernel
  have hown : ((of lent).run appendedFourTimes).events = [⟨3⟩] ∧
      ((of lent).run appendedFourTimes).pools = [⟨2⟩] := by decide +kernel
  have howned := hnone hlists happends
  have hevents := hevents.live_perm
  have hpools := (hpools hapart).1.live_perm
  rw [hsession, hown.1, howned] at hevents
  rw [hsession, hown.2, howned] at hpools
  exact ⟨hevents, hpools⟩

/-- The application makes an event in the pool of an append that the driver then refuses. -/
def crowded : List Action :=
  [.exitListCreate ⟨9⟩ ⟨8⟩ ⟨1⟩ false (.ok ()), .enterAppend 0 ⟨9⟩ .barrier none,
    .createEvent ⟨5⟩, .exitAppend 0 (.error ⟨"zeCommandListAppendBarrier", 7⟩)]

/-- The pool can not be destroyed with the application's event in it, and nobody has to destroy
it any more. -/
theorem pools_unaccounted_crowded :
    ∃ created c, Creates .default false
        ((Session.of .standard 7).run [.addDevice 1000 0, .newEvent]) created ∧
      Along next Conducts (of created) crowded ∧
      let l := (of created).run crowded
      l.session.collector = some c ∧ l.session.driver.pools.keys = [⟨2⟩, ⟨5⟩] ∧
        l.pools = [⟨2⟩] ∧ l.owned c = [] ∧ ¬ l.PoolsAccounted c := by
  have hborn : Creates .default false
      ((Session.of .standard 7).run [.addDevice 1000 0, .newEvent]) lent :=
    .create (Prod.ext (by decide +kernel) rfl)
  have hrun : Along next Conducts (of lent) crowded := by decide +kernel
  have hkeys : ((of lent).run crowded).session.driver.pools.keys = [⟨2⟩, ⟨5⟩] := by
    decide +kernel
  have hpools : ((of lent).run crowded).pools = [⟨2⟩] := by decide +kernel
  have howned : ((of lent).run crowded).session.collector.map ((of lent).run crowded).owned =
      some [] := by decide +kernel
  obtain ⟨c, hc, howned⟩ := Option.map_eq_some_iff.mp howned
  refine ⟨lent, c, hborn, hrun, hc, hkeys, hpools, howned, ?_⟩
  intro h
  have hlength := h.live_perm.length_eq
  rw [hkeys, hpools, howned] at hlength
  cases hlength

end Ledger

end GpuTrace
