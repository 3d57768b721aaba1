import GpuTrace.Proofs.Driver.Signals
import GpuTrace.Proofs.Table
import Mathlib.Data.List.Perm.Basic

/-!
# Custody — whose events and pools are alive in a driver

Every live event is either the application's or in the custody of the tracer, which
made it in a pool of its own, and the same goes for pools. `Custody` says this of a
driver as two permutations of the keys, so nothing alive is missing and nothing is in
two hands.

`make`, `unmake` and `release` are what the tracer does; `evolves` is what the
application does. The pools come out even only if the two keep `apart`: a pool of the
tracer in which the application made an event can not be destroyed.
-/

namespace GpuTrace.Driver

section OwnAfter

variable {α : Type} [DecidableEq α] {own live live' rest : List α}

/-- What the application has of the living after it acted: what it had before, and what
was not alive before. -/
def ownAfter (own live live' : List α) : List α :=
  live'.filter fun x => x ∈ own ∨ x ∉ live

theorem mem_ownAfter {x : α} : x ∈ ownAfter own live live' ↔ x ∈ live' ∧ (x ∈ own ∨ x ∉ live) := by
  simp [ownAfter]

theorem not_mem_ownAfter {x : α} (hx : x ∉ own) (hdead : x ∉ live → x ∉ live') :
    x ∉ ownAfter own live live' := by
  rw [mem_ownAfter]
  rintro ⟨hlive', hown | hnot⟩
  · exact hx hown
  · exact hdead hnot hlive'

theorem perm_ownAfter (hlive : live.Nodup) (hlive' : live'.Nodup) (h : live.Perm (own ++ rest))
    (hrest : ∀ x ∈ rest, x ∈ live') : live'.Perm (ownAfter own live live' ++ rest) := by
  have hmem : ∀ x, x ∈ live ↔ x ∈ own ∨ x ∈ rest := fun x => by
    rw [h.mem_iff, List.mem_append]
  obtain ⟨-, hnodup, hdisjoint⟩ := List.nodup_append.mp (h.nodup_iff.mp hlive)
  refine (List.perm_ext_iff_of_nodup hlive' ?_).mpr ?_
  · refine List.nodup_append.mpr ⟨hlive'.filter _, hnodup, ?_⟩
    rintro x hx _ hx' rfl
    rcases (mem_ownAfter.mp hx).2 with hown | hdead
    · exact hdisjoint x hown x hx' rfl
    · exact hdead ((hmem x).mpr (.inr hx'))
  · intro x
    rw [List.mem_append, mem_ownAfter]
    constructor
    · intro hx
      by_cases hxr : x ∈ rest
      · exact .inr hxr
      · refine .inl ⟨hx, ?_⟩
        by_cases hxo : x ∈ own
        · exact .inl hxo
        · exact .inr fun hxl => ((hmem x).mp hxl).elim hxo hxr
    · rintro (⟨hx, -⟩ | hx)
      · exact hx
      · exact hrest x hx

end OwnAfter

/-- The live events and pools are the application's, `events` and `pools`, and the ones in
the custody of the tracer, `owned`, each pool with its one event. -/
structure Custody (apart : Prop) (d : Driver) (events : List EventHandle)
    (pools : List EventPoolHandle) (owned : List (EventPoolHandle × EventHandle)) : Prop where
  numbered : d.Numbered
  events_perm : d.events.keys.Perm (events ++ owned.map Prod.snd)
  pools_perm : apart → d.pools.keys.Perm (pools ++ owned.map Prod.fst)
  lone : apart → ∀ o ∈ owned, ∀ e st, d.events.get? e = some st → st.pool = o.1 → e = o.2

variable {apart : Prop} {L : License} {d d' d₁ d₂ : Driver} {events : List EventHandle}
  {pools : List EventPoolHandle} {owned owned' : List (EventPoolHandle × EventHandle)}
  {pool : EventPoolHandle} {event : EventHandle}

theorem mem_events_keys : event ∈ d.events.keys ↔ d.isAlive event = true :=
  Table.mem_keys_iff

theorem mem_pools_keys : pool ∈ d.pools.keys ↔ d.pools.contains pool = true :=
  Table.mem_keys_iff

theorem Numbered.custody (h : d.Numbered) : Custody apart d d.events.keys d.pools.keys [] where
  numbered := h
  events_perm := by simp
  pools_perm _ := by simp
  lone _ := nofun

namespace Custody

theorem perm (h : Custody apart d events pools owned) (hp : owned.Perm owned') :
    Custody apart d events pools owned' where
  numbered := h.numbered
  events_perm := h.events_perm.trans ((hp.map _).append_left _)
  pools_perm ha := (h.pools_perm ha).trans ((hp.map _).append_left _)
  lone ha o ho := h.lone ha o (hp.mem_iff.mpr ho)

theorem same (h : Custody apart d events pools owned) (hmono : d.lastHandle ≤ d'.lastHandle)
    (hevents : d'.events = d.events) (hpools : d'.pools = d.pools) :
    Custody apart d' events pools owned where
  numbered := by
    have hd : Evolves .none d d' := evolves_of_same hmono hpools fun e => by rw [hevents]
    exact hd.numbered h.numbered
  events_perm := hevents ▸ h.events_perm
  pools_perm ha := hpools ▸ h.pools_perm ha
  lone ha := hevents ▸ h.lone ha

theorem untouched (h : Custody apart d events pools owned) (hd : Untouched d d') :
    Custody apart d' events pools owned :=
  h.same hd.mono hd.events hd.pools

theorem event_alive (h : Custody apart d events pools owned) {o : EventPoolHandle × EventHandle}
    (ho : o ∈ owned) : d.isAlive o.2 = true := by
  refine mem_events_keys.mp (h.events_perm.mem_iff.mpr ?_)
  exact List.mem_append_right _ (List.mem_map_of_mem ho)

theorem pool_alive (h : Custody apart d events pools owned) (ha : apart)
    {o : EventPoolHandle × EventHandle} (ho : o ∈ owned) : d.pools.contains o.1 = true := by
  refine mem_pools_keys.mp ((h.pools_perm ha).mem_iff.mpr ?_)
  exact List.mem_append_right _ (List.mem_map_of_mem ho)

theorem events_nodup (h : Custody apart d events pools owned) :
    (events ++ owned.map Prod.snd).Nodup :=
  h.events_perm.nodup_iff.mp d.events.nodup_keys

theorem pools_nodup (h : Custody apart d events pools owned) (ha : apart) :
    (pools ++ owned.map Prod.fst).Nodup :=
  (h.pools_perm ha).nodup_iff.mp d.pools.nodup_keys

theorem event_not_own (h : Custody apart d events pools owned) {o : EventPoolHandle × EventHandle}
    (ho : o ∈ owned) : o.2 ∉ events := fun hown =>
  (List.nodup_append.mp h.events_nodup).2.2 _ hown _ (List.mem_map_of_mem ho) rfl

theorem pool_not_own (h : Custody apart d events pools owned) (ha : apart)
    {o : EventPoolHandle × EventHandle} (ho : o ∈ owned) : o.1 ∉ pools := fun hown =>
  (List.nodup_append.mp (h.pools_nodup ha)).2.2 _ hown _ (List.mem_map_of_mem ho) rfl

/-- The application acts: it destroys only what is its own, and makes events in no pool
of the tracer if the two keep apart. -/
theorem evolves (h : Custody apart d events pools owned) (hd : d.Evolves L d')
    (hdestroys : ∀ e, L.destroys e → d.isAlive e = true → e ∈ events)
    (hdrops : ∀ p, L.drops p → d.pools.contains p = true → p ∈ pools)
    (hfills : apart → ∀ p, L.fills p → d.pools.contains p = true → p ∈ pools) :
    Custody apart d' (ownAfter events d.events.keys d'.events.keys)
      (ownAfter pools d.pools.keys d'.pools.keys) owned where
  numbered := hd.numbered h.numbered
  events_perm := by
    refine perm_ownAfter d.events.nodup_keys d'.events.nodup_keys h.events_perm ?_
    intro e he
    obtain ⟨o, ho, rfl⟩ := List.mem_map.mp he
    have halive := h.event_alive ho
    rcases hd.events_kept _ halive with hkept | hL
    · exact mem_events_keys.mpr hkept
    · exact absurd (hdestroys _ hL halive) (h.event_not_own ho)
  pools_perm ha := by
    refine perm_ownAfter d.pools.nodup_keys d'.pools.nodup_keys (h.pools_perm ha) ?_
    intro p hp
    obtain ⟨o, ho, rfl⟩ := List.mem_map.mp hp
    have halive := h.pool_alive ha ho
    rcases hd.pools_kept _ halive with hkept | hL
    · exact mem_pools_keys.mpr hkept
    · exact absurd (hdrops _ hL halive) (h.pool_not_own ha ho)
  lone ha o ho e st' he hpool := by
    rcases hd.events_from e st' he with ⟨st, hst, heq⟩ | ⟨-, hfrom⟩
    · exact h.lone ha o ho e st hst (heq.trans hpool)
    · rw [hpool] at hfrom
      rcases hfrom with ⟨hcontains, hL⟩ | hgiven
      · exact absurd (hfills ha _ hL hcontains) (h.pool_not_own ha ho)
      · exact absurd (h.numbered.pool_le _ (h.pool_alive ha ho)) (Nat.not_le_of_lt hgiven.1)

end Custody

/-! ## Calls of the tracer -/

theorem createPool_ok {context : ContextHandle} {desc : PoolDesc}
    (h : d.createPool context desc = (.ok pool, d₁)) :
    pool = ⟨d.lastHandle + 1⟩ ∧
      d₁ = { d with lastHandle := d.lastHandle + 1, pools := d.pools.insert pool desc } := by
  unfold createPool at h
  cases hf : d.failPool with
  | some code =>
    rw [hf] at h
    cases h
  | none =>
    rw [hf] at h
    cases h
    exact ⟨rfl, by rw [← hf]⟩

theorem createPool_error {context : ContextHandle} {desc : PoolDesc} {e : DriverError}
    (h : d.createPool context desc = (.error e, d₁)) : d₁ = { d with failPool := none } := by
  unfold createPool at h
  cases hf : d.failPool with
  | some code =>
    rw [hf] at h
    cases h
    rfl
  | none =>
    rw [hf] at h
    cases h

theorem createEvent_ok (h : d.createEvent pool = (.ok event, d₁)) :
    event = ⟨d.lastHandle + 1⟩ ∧
      d₁ = { d with
        lastHandle := d.lastHandle + 1
        events := d.events.insert event (newEvent pool) } := by
  unfold createEvent at h
  cases hf : d.failEvent with
  | some code =>
    rw [hf] at h
    cases h
  | none =>
    rw [hf] at h
    dsimp only at h
    split at h
    · cases h
      exact ⟨rfl, by rw [← hf]; rfl⟩
    · cases h

theorem createEvent_error {e : DriverError} (h : d.createEvent pool = (.error e, d₁)) :
    d₁.lastHandle = d.lastHandle ∧ d₁.events = d.events ∧ d₁.pools = d.pools := by
  unfold createEvent at h
  cases hf : d.failEvent with
  | some code =>
    rw [hf] at h
    cases h
    exact ⟨rfl, rfl, rfl⟩
  | none =>
    rw [hf] at h
    dsimp only at h
    split at h
    · cases h
    · cases h
      exact ⟨rfl, rfl, rfl⟩

theorem destroyEvent_of_alive (h : d.isAlive event = true) :
    d.destroyEvent event = (.ok (), { d with events := d.events.erase event }) :=
  if_pos h

theorem destroyPool_of_empty (h : d.pools.contains pool = true)
    (hempty : ∀ e st, d.events.get? e = some st → st.pool ≠ pool) :
    d.destroyPool pool = (.ok (), { d with pools := d.pools.erase pool }) := by
  have hnone : d.events.entries.any (·.2.pool == pool) = false := by
    rw [List.any_eq_false]
    rintro ⟨e, st⟩ hmem
    simpa using hempty e st (Table.mem_entries_iff.mp hmem)
  unfold destroyPool
  rw [hnone, if_pos h]
  rfl

theorem destroyPool_ok (h : (d.destroyPool pool).1 = .ok ()) :
    (d.destroyPool pool).2 = { d with pools := d.pools.erase pool } := by
  unfold destroyPool at h ⊢
  split at h
  · cases h
  · split at h
    · rw [if_neg ‹_›, if_pos ‹_›]
    · cases h

theorem destroyPool_events : (d.destroyPool pool).2.events = d.events := by
  unfold destroyPool
  split
  · rfl
  · split <;> rfl

theorem Numbered.event_absent (h : d.Numbered) {n : Nat} (hn : d.lastHandle < n) :
    d.events.get? ⟨n⟩ = none := by
  cases he : d.events.get? ⟨n⟩ with
  | none => rfl
  | some st => exact absurd (h.event_le _ st he) (Nat.not_le_of_lt hn)

theorem Numbered.pool_absent (h : d.Numbered) {n : Nat} (hn : d.lastHandle < n) :
    d.pools.get? ⟨n⟩ = none := by
  cases hp : d.pools.get? ⟨n⟩ with
  | none => rfl
  | some desc =>
    have hcontains : d.pools.contains ⟨n⟩ = true := by simp [Table.contains, hp]
    exact absurd (h.pool_le _ hcontains) (Nat.not_le_of_lt hn)

namespace Custody

/-- A new event in a new pool comes into custody. -/
theorem make (h : Custody apart d events pools owned) {context : ContextHandle} {desc : PoolDesc}
    (hpool : d.createPool context desc = (.ok pool, d₁))
    (hevent : d₁.createEvent pool = (.ok event, d₂)) :
    Custody apart d₂ events pools ((pool, event) :: owned) := by
  have hnumbered : d₂.Numbered := by
    have h₁ := (createPool_evolves (L := .any) context desc).numbered h.numbered
    have h₂ := (createEvent_evolves (L := .any) pool trivial).numbered h₁
    rwa [hpool, hevent] at h₂
  obtain ⟨rfl, rfl⟩ := createPool_ok hpool
  obtain ⟨rfl, rfl⟩ := createEvent_ok hevent
  have habsent : d.events.get? ⟨d.lastHandle + 1 + 1⟩ = none :=
    h.numbered.event_absent (Nat.lt_succ_of_lt (Nat.lt_succ_self _))
  have hpabsent : d.pools.get? ⟨d.lastHandle + 1⟩ = none :=
    h.numbered.pool_absent (Nat.lt_succ_self _)
  refine ⟨hnumbered, ?_, ?_, ?_⟩
  · show (d.events.insert _ _).keys.Perm _
    rw [Table.keys_insert_of_absent _ habsent]
    refine (h.events_perm.append_right _).trans ?_
    rw [List.append_assoc]
    exact List.perm_append_comm.append_left _
  · intro ha
    show (d.pools.insert _ _).keys.Perm _
    rw [Table.keys_insert_of_absent _ hpabsent]
    refine ((h.pools_perm ha).append_right _).trans ?_
    rw [List.append_assoc]
    exact List.perm_append_comm.append_left _
  · intro ha o ho e st hst hpool
    have hst' : (d.events.insert ⟨d.lastHandle + 1 + 1⟩ (newEvent ⟨d.lastHandle + 1⟩)).get? e =
        some st := hst
    rw [Table.get?_insert] at hst'
    rcases List.mem_cons.mp ho with rfl | ho
    · split at hst'
      · assumption
      · -- no older event is in the new pool
        have hle := h.numbered.event_pool_le e st hst'
        rw [hpool] at hle
        exact absurd hle (Nat.not_le_of_lt (Nat.lt_succ_self _))
    · split at hst'
      · -- no older pool has the new event
        cases hst'
        have hle := h.numbered.pool_le _ (h.pool_alive ha ho)
        rw [← hpool] at hle
        exact absurd hle (Nat.not_le_of_lt (Nat.lt_succ_self _))
      · exact h.lone ha o ho e st hst' hpool

/-- A new pool in which no event can be made is destroyed again. -/
theorem unmake (h : Custody apart d events pools owned) {context : ContextHandle} {desc : PoolDesc}
    {e : DriverError} (hpool : d.createPool context desc = (.ok pool, d₁))
    (hevent : d₁.createEvent pool = (.error e, d₂)) :
    (d₂.destroyPool pool).1 = .ok () ∧
      Custody apart (d₂.destroyPool pool).2 events pools owned := by
  obtain ⟨rfl, rfl⟩ := createPool_ok hpool
  obtain ⟨hlast, hevents, hpools⟩ := createEvent_error hevent
  have hcontains : d₂.pools.contains ⟨d.lastHandle + 1⟩ = true := by
    simp [hpools]
  have hempty : ∀ e st, d₂.events.get? e = some st → st.pool ≠ ⟨d.lastHandle + 1⟩ := by
    intro e st hst heq
    rw [hevents] at hst
    have hle := h.numbered.event_pool_le e st hst
    rw [heq] at hle
    exact absurd hle (Nat.not_le_of_lt (Nat.lt_succ_self _))
  rw [destroyPool_of_empty hcontains hempty]
  refine ⟨rfl, h.same ?_ hevents ?_⟩
  · exact Nat.le_trans (Nat.le_succ _) (Nat.le_of_eq hlast.symm)
  · show d₂.pools.erase _ = d.pools
    rw [hpools]
    exact Table.erase_insert_of_absent _ (h.numbered.pool_absent (Nat.lt_succ_self _))

/-- Something in custody is destroyed, first the event and then its pool. -/
theorem release (h : Custody apart d events pools ((pool, event) :: owned)) :
    (d.destroyEvent event).1 = .ok () ∧
      (apart → ((d.destroyEvent event).2.destroyPool pool).1 = .ok ()) ∧
      Custody apart ((d.destroyEvent event).2.destroyPool pool).2 events pools owned := by
  have hnumbered : ((d.destroyEvent event).2.destroyPool pool).2.Numbered :=
    (destroyPool_evolves (L := .any) pool trivial).numbered
      ((destroyEvent_evolves (L := .any) event trivial).numbered h.numbered)
  have hmem : (pool, event) ∈ (pool, event) :: owned := List.mem_cons_self
  have halive : d.isAlive event = true := h.event_alive hmem
  have hperm : (d.events.erase event).keys.Perm (events ++ owned.map Prod.snd) := by
    rw [Table.keys_erase]
    have := (h.events_perm.trans List.perm_middle).erase event
    rwa [List.erase_cons_head] at this
  have hkept : ∀ e st, (d.events.erase event).get? e = some st →
      e ≠ event ∧ d.events.get? e = some st := by
    intro e st hst
    rw [Table.get?_erase] at hst
    split at hst
    · cases hst
    · exact ⟨‹_›, hst⟩
  rw [destroyEvent_of_alive halive] at hnumbered ⊢
  refine ⟨rfl, ?_⟩
  -- with the event gone the pool is empty, unless the application made another one there
  have hdestroyed : apart →
      destroyPool { d with events := d.events.erase event } pool =
        (.ok (), { d with
          events := d.events.erase event
          pools := d.pools.erase pool }) := by
    intro ha
    refine destroyPool_of_empty (h.pool_alive ha hmem) ?_
    intro e st hst hpool
    obtain ⟨hne, hst⟩ := hkept e st hst
    exact hne (h.lone ha _ hmem e st hst hpool)
  refine ⟨fun ha => by rw [hdestroyed ha], hnumbered, ?_, ?_, ?_⟩
  · rw [destroyPool_events]
    exact hperm
  · intro ha
    rw [hdestroyed ha]
    show (d.pools.erase pool).keys.Perm _
    rw [Table.keys_erase]
    have := ((h.pools_perm ha).trans List.perm_middle).erase pool
    rwa [List.erase_cons_head] at this
  · intro ha o ho e st hst
    rw [destroyPool_events] at hst
    exact h.lone ha o (List.mem_cons_of_mem _ ho) e st (hkept e st hst).2

end Custody

/-! ## What is left -/

def without (d : Driver) (gone : List (EventPoolHandle × EventHandle)) : Driver :=
  { d with
    events := (gone.map Prod.snd).foldl Table.erase d.events
    pools := (gone.map Prod.fst).foldl Table.erase d.pools }

theorem without_append (d : Driver) (gone gone' : List (EventPoolHandle × EventHandle)) :
    d.without (gone ++ gone') = (d.without gone).without gone' := by
  simp only [without, List.map_append, List.foldl_append]

theorem event_without (d : Driver) (gone : List (EventPoolHandle × EventHandle)) :
    (d.without gone).events.get? event =
      if event ∈ gone.map Prod.snd then none else d.events.get? event :=
  Table.get?_foldl_erase _

theorem pool_without (d : Driver) (gone : List (EventPoolHandle × EventHandle)) :
    (d.without gone).pools.get? pool =
      if pool ∈ gone.map Prod.fst then none else d.pools.get? pool :=
  Table.get?_foldl_erase _

/-- If the two keep apart, an event that is released goes with its pool, and nothing else. -/
theorem Custody.release_without (h : Custody apart d events pools ((pool, event) :: owned))
    (ha : apart) :
    d.destroyEvent event = (.ok (), { d with events := d.events.erase event }) ∧
      destroyPool { d with events := d.events.erase event } pool =
        (.ok (), d.without [(pool, event)]) ∧
      Custody apart (d.without [(pool, event)]) events pools owned := by
  have hevent : d.destroyEvent event = (.ok (), { d with events := d.events.erase event }) :=
    destroyEvent_of_alive (h.event_alive List.mem_cons_self)
  obtain ⟨-, hok, hrest⟩ := h.release
  rw [hevent] at hok hrest
  have hpool : destroyPool { d with events := d.events.erase event } pool =
      (.ok (), d.without [(pool, event)]) := by
    refine Prod.ext (hok ha) (destroyPool_ok ?_)
    exact hok ha
  rw [hpool] at hrest
  exact ⟨hevent, hpool, hrest⟩

end GpuTrace.Driver
