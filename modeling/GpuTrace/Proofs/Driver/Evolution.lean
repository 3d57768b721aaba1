import GpuTrace.Driver.Basic
import Mathlib.Order.Defs.Unbundled

/-!
# Evolution — what calls do to the events and pools of a driver

A call of the driver makes events and pools under handles that were never given before,
and destroys only what it is asked to. `Evolves L` says this of any number of calls, with
the objects from before that they may touch listed in the license `L`.

So a handle that is gone never comes back (`Evolves.gone`), and in a driver whose handles
are all below the counter (`Numbered`) new objects are different from old ones.
-/

namespace GpuTrace.Driver

/-- What calls may do to objects that were there before. -/
structure License where
  destroys : EventHandle → Prop
  drops : EventPoolHandle → Prop
  /-- Pools that may get new events. -/
  fills : EventPoolHandle → Prop

def License.none : License :=
  ⟨fun _ => False, fun _ => False, fun _ => False⟩

def License.any : License :=
  ⟨fun _ => True, fun _ => True, fun _ => True⟩

/-- The handle was given after `d` and up to `d'`. -/
def Given (d d' : Driver) (n : Nat) : Prop :=
  d.lastHandle < n ∧ n ≤ d'.lastHandle

/-- Calls that touch old objects only as `L` allows take `d` to `d'`. -/
structure Evolves (L : License) (d d' : Driver) : Prop where
  mono : d.lastHandle ≤ d'.lastHandle
  events_from : ∀ e st', d'.events.get? e = some st' →
    (∃ st, d.events.get? e = some st ∧ st.pool = st'.pool) ∨
      Given d d' e.raw ∧
        (d.pools.contains st'.pool = true ∧ L.fills st'.pool ∨ Given d d' st'.pool.raw)
  pools_from : ∀ p, d'.pools.contains p = true → d.pools.contains p = true ∨ Given d d' p.raw
  events_kept : ∀ e, d.isAlive e = true → d'.isAlive e = true ∨ L.destroys e
  pools_kept : ∀ p, d.pools.contains p = true → d'.pools.contains p = true ∨ L.drops p

structure Numbered (d : Driver) : Prop where
  event_le : ∀ e st, d.events.get? e = some st → e.raw ≤ d.lastHandle
  pool_le : ∀ p, d.pools.contains p = true → p.raw ≤ d.lastHandle
  event_pool_le : ∀ e st, d.events.get? e = some st → st.pool.raw ≤ d.lastHandle

theorem numbered_of (version : ApiVersion) (backend : Backend) : (of version backend).Numbered where
  event_le := nofun
  pool_le := nofun
  event_pool_le := nofun

variable {L : License} {d d' : Driver}

theorem isAlive_iff {e : EventHandle} : d.isAlive e = true ↔ ∃ st, d.events.get? e = some st := by
  unfold isAlive Table.contains
  exact Option.isSome_iff_exists

instance : IsPreorder Driver (Evolves L) where
  refl d := ⟨Nat.le_refl _, fun e st' h => .inl ⟨st', h, rfl⟩, fun _ h => .inl h,
    fun _ h => .inl h, fun _ h => .inl h⟩
  trans := by
    intro d₁ d₂ d₃ h h'
    have hlow : ∀ {n}, Given d₁ d₂ n → Given d₁ d₃ n := fun hn => ⟨hn.1, Nat.le_trans hn.2 h'.mono⟩
    have hhigh : ∀ {n}, Given d₂ d₃ n → Given d₁ d₃ n := fun hn =>
      ⟨Nat.lt_of_le_of_lt h.mono hn.1, hn.2⟩
    refine ⟨Nat.le_trans h.mono h'.mono, ?_, ?_, ?_, ?_⟩
    · intro e st₃ he
      rcases h'.events_from e st₃ he with ⟨st₂, he₂, hpool⟩ | ⟨hgiven, hfrom⟩
      · rw [← hpool]
        rcases h.events_from e st₂ he₂ with hold | ⟨hgiven, hfrom⟩
        · exact .inl hold
        · exact .inr ⟨hlow hgiven, hfrom.imp_right hlow⟩
      · refine .inr ⟨hhigh hgiven, ?_⟩
        rcases hfrom with ⟨hcontains, hfills⟩ | hnew
        · exact (h.pools_from _ hcontains).imp (fun hc => ⟨hc, hfills⟩) hlow
        · exact .inr (hhigh hnew)
    · intro p hp
      rcases h'.pools_from p hp with hp | hnew
      · exact (h.pools_from p hp).imp_right hlow
      · exact .inr (hhigh hnew)
    · intro e he
      rcases h.events_kept e he with he | hL
      · exact h'.events_kept e he
      · exact .inr hL
    · intro p hp
      rcases h.pools_kept p hp with hp | hL
      · exact h'.pools_kept p hp
      · exact .inr hL

theorem Evolves.imp {L' : License} (h : Evolves L d d')
    (hdestroys : ∀ e, L.destroys e → L'.destroys e)
    (hdrops : ∀ p, L.drops p → L'.drops p) (hfills : ∀ p, L.fills p → L'.fills p) :
    Evolves L' d d' where
  mono := h.mono
  events_from e st' he := (h.events_from e st' he).imp_right fun ⟨hgiven, hfrom⟩ =>
    ⟨hgiven, hfrom.imp_left fun ⟨hcontains, hL⟩ => ⟨hcontains, hfills _ hL⟩⟩
  pools_from := h.pools_from
  events_kept e he := (h.events_kept e he).imp_right (hdestroys e)
  pools_kept p hp := (h.pools_kept p hp).imp_right (hdrops p)

theorem Evolves.any (h : Evolves L d d') : Evolves .any d d' :=
  h.imp (fun _ _ => trivial) (fun _ _ => trivial) (fun _ _ => trivial)

theorem Evolves.numbered (h : Evolves L d d') (hd : d.Numbered) : d'.Numbered where
  event_le e st' he := by
    rcases h.events_from e st' he with ⟨st, hst, -⟩ | ⟨hgiven, -⟩
    · exact Nat.le_trans (hd.event_le e st hst) h.mono
    · exact hgiven.2
  pool_le p hp := by
    rcases h.pools_from p hp with hold | hgiven
    · exact Nat.le_trans (hd.pool_le p hold) h.mono
    · exact hgiven.2
  event_pool_le e st' he := by
    rcases h.events_from e st' he with ⟨st, hst, hpool⟩ | ⟨-, ⟨hcontains, -⟩ | hgiven⟩
    · rw [← hpool]
      exact Nat.le_trans (hd.event_pool_le e st hst) h.mono
    · exact Nat.le_trans (hd.pool_le _ hcontains) h.mono
    · exact hgiven.2

/-- An event that was given and is gone does not come back. -/
theorem Evolves.gone (h : Evolves L d d') {e : EventHandle} (hgiven : e.raw ≤ d.lastHandle)
    (he : d.isAlive e = false) : d'.isAlive e = false := by
  rw [← Bool.not_eq_true, isAlive_iff]
  rintro ⟨st', hst'⟩
  rcases h.events_from e st' hst' with ⟨st, hst, -⟩ | ⟨hnew, -⟩
  · rw [isAlive_iff.mpr ⟨st, hst⟩] at he
    cases he
  · exact absurd hnew.1 (Nat.not_lt_of_le hgiven)

theorem Evolves.pool_gone (h : Evolves L d d') {p : EventPoolHandle} (hgiven : p.raw ≤ d.lastHandle)
    (hp : d.pools.contains p = false) : d'.pools.contains p = false := by
  rw [← Bool.not_eq_true]
  intro hp'
  rcases h.pools_from p hp' with hold | hnew
  · rw [hold] at hp
    cases hp
  · exact absurd hnew.1 (Nat.not_lt_of_le hgiven)

/-! ## Calls -/

theorem evolves_of_same (hmono : d.lastHandle ≤ d'.lastHandle) (hpools : d'.pools = d.pools)
    (hevents : ∀ e, (d'.events.get? e).map (·.pool) = (d.events.get? e).map (·.pool)) :
    Evolves L d d' where
  mono := hmono
  events_from e st' he := by
    have hpool := hevents e
    rw [he, Option.map_some, eq_comm, Option.map_eq_some_iff] at hpool
    exact .inl hpool
  pools_from p hp := .inl (hpools ▸ hp)
  events_kept e he := by
    obtain ⟨st, hst⟩ := isAlive_iff.mp he
    have hpool := hevents e
    rw [hst, Option.map_some, Option.map_eq_some_iff] at hpool
    obtain ⟨st', hst', -⟩ := hpool
    exact .inl (isAlive_iff.mpr ⟨st', hst'⟩)
  pools_kept p hp := .inl (hpools.symm ▸ hp)

theorem evolves_of_modify (e : EventHandle) (f : EventState → EventState)
    (hf : ∀ st, (f st).pool = st.pool) :
    Evolves L d { d with events := d.events.modify e f } := by
  refine evolves_of_same (Nat.le_refl _) rfl ?_
  intro e'
  show ((d.events.modify e f).get? e').map _ = _
  rw [Table.get?_modify]
  split
  · cases d.events.get? e' <;> simp [hf]
  · rfl

theorem setEnabled_evolves (tracer : TracerHandle) (enabled : Bool) :
    Evolves L d (d.setEnabled tracer enabled).2 := by
  unfold setEnabled
  cases d.failToggle with
  | some code => exact evolves_of_same (Nat.le_refl _) rfl fun _ => rfl
  | none =>
    cases h : d.tracers.contains tracer with
    | true => exact evolves_of_same (Nat.le_refl _) rfl fun _ => rfl
    | false => exact refl_of (Evolves L) d

theorem register_evolves : Evolves L d d.register.2 := by
  unfold register
  cases d.failRegister with
  | some code => exact evolves_of_same (Nat.le_refl _) rfl fun _ => rfl
  | none => exact evolves_of_same (Nat.le_succ _) rfl fun _ => rfl

theorem unregister_evolves (tracer : TracerHandle) : Evolves L d (d.unregister tracer).2 := by
  unfold unregister
  cases h : d.tracers.contains tracer with
  | true => exact evolves_of_same (Nat.le_refl _) rfl fun _ => rfl
  | false => exact refl_of (Evolves L) d

theorem createPool_evolves (context : ContextHandle) (desc : PoolDesc) :
    Evolves L d (d.createPool context desc).2 := by
  unfold createPool
  cases d.failPool with
  | some code => exact evolves_of_same (Nat.le_refl _) rfl fun _ => rfl
  | none =>
    refine ⟨Nat.le_succ _, fun e st' h => .inl ⟨st', h, rfl⟩, ?_, fun _ h => .inl h, ?_⟩
    · intro p hp
      have hp' : (d.pools.insert ⟨d.lastHandle + 1⟩ desc).contains p = true := hp
      rw [Table.contains_insert, Bool.or_eq_true, decide_eq_true_eq] at hp'
      rcases hp' with rfl | hp'
      · exact .inr ⟨Nat.lt_succ_self _, Nat.le_refl _⟩
      · exact .inl hp'
    · intro p hp
      refine .inl ?_
      show (d.pools.insert ⟨d.lastHandle + 1⟩ desc).contains p = true
      rw [Table.contains_insert, hp, Bool.or_true]

theorem createEvent_evolves (pool : EventPoolHandle) (hL : L.fills pool) :
    Evolves L d (d.createEvent pool).2 := by
  unfold createEvent
  cases d.failEvent with
  | some code => exact evolves_of_same (Nat.le_refl _) rfl fun _ => rfl
  | none =>
    dsimp only
    split
    · rename_i hpool
      refine ⟨Nat.le_succ _, ?_, fun _ h => .inl h, ?_, fun _ h => .inl h⟩
      · intro e st' he
        have he' : (d.events.insert ⟨d.lastHandle + 1⟩ (newEvent pool)).get? e = some st' := he
        rw [Table.get?_insert] at he'
        split at he'
        · rename_i heq
          cases he'
          subst heq
          exact .inr ⟨⟨Nat.lt_succ_self _, Nat.le_refl _⟩, .inl ⟨hpool, hL⟩⟩
        · exact .inl ⟨st', he', rfl⟩
      · intro e he
        refine .inl ?_
        show (d.events.insert ⟨d.lastHandle + 1⟩ (newEvent pool)).contains e = true
        rw [Table.contains_insert, show d.events.contains e = true from he, Bool.or_true]
    · exact refl_of (Evolves L) d

theorem createUserEvent_evolves : Evolves L d d.createUserEvent.2 := by
  unfold createUserEvent
  refine ⟨Nat.le_add_right _ 2, ?_, ?_, ?_, ?_⟩
  · intro e st' he
    have he' : (d.events.insert ⟨d.lastHandle + 1 + 1⟩ (newEvent ⟨d.lastHandle + 1⟩)).get? e =
        some st' := he
    rw [Table.get?_insert] at he'
    split at he'
    · rename_i heq
      cases he'
      subst heq
      have hgiven : Given d d.createUserEvent.2 (d.lastHandle + 1) :=
        ⟨Nat.lt_succ_self _, Nat.le_succ _⟩
      have hevent : Given d d.createUserEvent.2 (d.lastHandle + 1 + 1) :=
        ⟨Nat.lt_succ_of_lt (Nat.lt_succ_self _), Nat.le_refl _⟩
      exact .inr ⟨hevent, .inr hgiven⟩
    · exact .inl ⟨st', he', rfl⟩
  · intro p hp
    have hp' : (d.pools.insert ⟨d.lastHandle + 1⟩ PoolDesc.profiling).contains p = true := hp
    rw [Table.contains_insert, Bool.or_eq_true, decide_eq_true_eq] at hp'
    rcases hp' with rfl | hp'
    · exact .inr ⟨Nat.lt_succ_self _, Nat.le_succ _⟩
    · exact .inl hp'
  · intro e he
    refine .inl ?_
    show (d.events.insert ⟨d.lastHandle + 1 + 1⟩ (newEvent ⟨d.lastHandle + 1⟩)).contains e = true
    rw [Table.contains_insert, show d.events.contains e = true from he, Bool.or_true]
  · intro p hp
    refine .inl ?_
    show (d.pools.insert ⟨d.lastHandle + 1⟩ PoolDesc.profiling).contains p = true
    rw [Table.contains_insert, hp, Bool.or_true]

theorem destroyEvent_evolves (event : EventHandle) (hL : L.destroys event) :
    Evolves L d (d.destroyEvent event).2 := by
  unfold destroyEvent
  split
  · refine ⟨Nat.le_refl _, ?_, fun _ h => .inl h, ?_, fun _ h => .inl h⟩
    · intro e st' he
      have he' : (d.events.erase event).get? e = some st' := he
      rw [Table.get?_erase] at he'
      split at he'
      · cases he'
      · exact .inl ⟨st', he', rfl⟩
    · intro e he
      by_cases heq : e = event
      · exact .inr (heq ▸ hL)
      · refine .inl ?_
        show ((d.events.erase event).get? e).isSome = true
        rw [Table.get?_erase, if_neg heq]
        exact he
  · exact refl_of (Evolves L) d

theorem destroyPool_evolves (pool : EventPoolHandle) (hL : L.drops pool) :
    Evolves L d (d.destroyPool pool).2 := by
  unfold destroyPool
  split
  · exact refl_of (Evolves L) d
  · split
    · refine ⟨Nat.le_refl _, fun e st' h => .inl ⟨st', h, rfl⟩, ?_, fun _ h => .inl h, ?_⟩
      · intro p hp
        have hp' : ((d.pools.erase pool).get? p).isSome = true := hp
        rw [Table.get?_erase] at hp'
        split at hp'
        · cases hp'
        · exact .inl hp'
      · intro p hp
        by_cases heq : p = pool
        · exact .inr (heq ▸ hL)
        · refine .inl ?_
          show ((d.pools.erase pool).get? p).isSome = true
          rw [Table.get?_erase, if_neg heq]
          exact hp
    · exact refl_of (Evolves L) d

end GpuTrace.Driver
