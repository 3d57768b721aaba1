import GpuTrace.Proofs.Driver.Devices
import GpuTrace.Proofs.Driver.Reports

/-!
# Tables — one counter for all objects, and no event without its pool

Whatever is asked of a driver, it makes one `Move`: it adds an object under the next number, drops
one, or changes nothing that the tables are about (`perform_moves`). All numbers in the tables are
up to the counter and every live event is in a live pool (`Intact`); each move keeps both
(`Move.intact`) and gives a number that is past the counter (`Move.numbers`). So the handles that a
driver answers go up (`pairwise_handed`), and a pool can be destroyed exactly if it is live and none
of its events is (`destroyPool_eq`).
-/

namespace GpuTrace.Driver

/-! ## Requests -/

/-- A call that can change a driver. Failures are asked for beforehand. -/
inductive Request
  | addDevice (frequency : UInt64) (subDevices : Nat)
  | setTimestampMask (mask : UInt64)
  | setDeviceTime (device : DeviceHandle) (ticks : UInt64)
  | advanceDeviceTime (device : DeviceHandle) (ticks : UInt64)
  | addKernel (name : String) (simdWidth : UInt32)
  | createContext
  | createList
  | createQueue
  | createImage
  | createUserEvent
  | signal (event : EventHandle) (timestamp : KernelTimestamp)
  | setEventStatus (event : EventHandle) (status : EventStatus)
  | hostReset (event : EventHandle)
  | failNextPool (code : Int32)
  | failNextEvent (code : Int32)
  | failNextRegister (code : Int32)
  | failNextToggle (code : Int32)
  | createPool (context : ContextHandle) (desc : PoolDesc)
  | createEvent (pool : EventPoolHandle)
  | destroyEvent (event : EventHandle)
  | destroyPool (pool : EventPoolHandle)
  | register
  | setEnabled (tracer : TracerHandle) (enabled : Bool)
  | unregister (tracer : TracerHandle)

/-- What a call answers; the handle of a new object goes by its number. -/
inductive Reply
  | done
  | created (number : Nat)
  | refused (error : DriverError)
  | stopped (fault : Fault)
  deriving DecidableEq

namespace Reply

def created? : Reply → Option Nat
  | .created number => some number
  | .done | .refused _ | .stopped _ => none

def ofNew {kind : HandleKind} (made : Handle kind × Driver) : Reply × Driver :=
  (.created made.1.raw, made.2)

def ofCreation {kind : HandleKind} (made : Except DriverError (Handle kind) × Driver) :
    Reply × Driver :=
  match made with
  | (.ok handle, d) => (.created handle.raw, d)
  | (.error e, d) => (.refused e, d)

def ofAttempt (made : Except DriverError Unit × Driver) : Reply × Driver :=
  match made with
  | (.ok (), d) => (.done, d)
  | (.error e, d) => (.refused e, d)

def ofChange (d : Driver) : Except Fault Driver → Reply × Driver
  | .ok d' => (.done, d')
  | .error e => (.stopped e, d)

end Reply

def perform (d : Driver) : Request → Reply × Driver
  | .addDevice frequency subDevices => Reply.ofNew (d.addDevice frequency subDevices)
  | .setTimestampMask mask => (.done, d.setTimestampMask mask)
  | .setDeviceTime device ticks => Reply.ofChange d (d.setDeviceTime device ticks)
  | .advanceDeviceTime device ticks => Reply.ofChange d (d.advanceDeviceTime device ticks)
  | .addKernel name simdWidth => Reply.ofNew (d.addKernel name simdWidth)
  | .createContext => Reply.ofNew (d.fresh : ContextHandle × Driver)
  | .createList => Reply.ofNew (d.fresh : CommandListHandle × Driver)
  | .createQueue => Reply.ofNew (d.fresh : QueueHandle × Driver)
  | .createImage => Reply.ofNew (d.fresh : ImageHandle × Driver)
  | .createUserEvent => Reply.ofNew d.createUserEvent
  | .signal event timestamp => Reply.ofChange d (d.signal event timestamp)
  | .setEventStatus event status => (.done, d.setEventStatus event status)
  | .hostReset event => (.done, d.hostReset event)
  | .failNextPool code => (.done, { d with failPool := some code })
  | .failNextEvent code => (.done, { d with failEvent := some code })
  | .failNextRegister code => (.done, { d with failRegister := some code })
  | .failNextToggle code => (.done, { d with failToggle := some code })
  | .createPool context desc => Reply.ofCreation (d.createPool context desc)
  | .createEvent pool => Reply.ofCreation (d.createEvent pool)
  | .destroyEvent event => Reply.ofAttempt (d.destroyEvent event)
  | .destroyPool pool => Reply.ofAttempt (d.destroyPool pool)
  | .register => Reply.ofCreation d.register
  | .setEnabled tracer enabled => Reply.ofAttempt (d.setEnabled tracer enabled)
  | .unregister tracer => Reply.ofAttempt (d.unregister tracer)

/-- The driver after a call, also if it failed or stopped. -/
def after (d : Driver) (q : Request) : Driver :=
  (d.perform q).2

def afterAll (d : Driver) (requests : List Request) : Driver :=
  requests.foldl after d

/-- Numbers of the objects that calls answer, in the order of the calls. -/
def handed (d : Driver) : List Request → List Nat
  | [] => []
  | q :: requests => (d.perform q).1.created?.toList ++ (d.after q).handed requests

def numbers (d : Driver) : List Nat :=
  (d.outline.flatMap fun o => (o.1 :: o.2.2).map (·.raw)) ++ d.kernels.keys.map (·.raw) ++
    d.pools.keys.map (·.raw) ++ d.events.keys.map (·.raw) ++ d.tracers.keys.map (·.raw)

def Unused (d : Driver) (pool : EventPoolHandle) : Prop :=
  ∀ e st, d.events.get? e = some st → st.pool ≠ pool

/-! ## Moves -/

/-- Only timers, statuses, switches and what is to fail may differ. -/
structure Quiet (d d' : Driver) : Prop where
  lastHandle : d'.lastHandle = d.lastHandle
  outline : d'.outline = d.outline
  kernels : d'.kernels = d.kernels
  pools : d'.pools = d.pools
  pool_of : ∀ e, (d'.events.get? e).map (·.pool) = (d.events.get? e).map (·.pool)
  tracers : ∀ t, d'.tracers.contains t = d.tracers.contains t

/-- What one call does to the tables, and the number that it answers. -/
inductive Move : Driver → Option Nat → Driver → Prop
  | quiet {d d'} (h : Quiet d d') : Move d none d'
  /-- An object that is in no table. -/
  | plain {d} : Move d (some (d.lastHandle + 1)) { d with lastHandle := d.lastHandle + 1 }
  | device {d frequency subDevices} :
      Move d (some (d.lastHandle + 1)) (d.addDevice frequency subDevices).2
  | kernel {d state} : Move d (some (d.lastHandle + 1)) { d with
      lastHandle := d.lastHandle + 1
      kernels := d.kernels.insert ⟨d.lastHandle + 1⟩ state }
  | pool {d desc} : Move d (some (d.lastHandle + 1)) { d with
      lastHandle := d.lastHandle + 1
      pools := d.pools.insert ⟨d.lastHandle + 1⟩ desc }
  | event {d pool} (live : d.pools.contains pool = true) :
      Move d (some (d.lastHandle + 1)) { d with
        lastHandle := d.lastHandle + 1
        events := d.events.insert ⟨d.lastHandle + 1⟩ (newEvent pool) }
  /-- The pool takes a number of its own, which is not answered. -/
  | userEvent {d} : Move d (some (d.lastHandle + 1 + 1)) { d with
      lastHandle := d.lastHandle + 1 + 1
      pools := d.pools.insert ⟨d.lastHandle + 1⟩ PoolDesc.profiling
      events := d.events.insert ⟨d.lastHandle + 1 + 1⟩ (newEvent ⟨d.lastHandle + 1⟩) }
  | tracer {d} : Move d (some (d.lastHandle + 1)) { d with
      lastHandle := d.lastHandle + 1
      tracers := d.tracers.insert ⟨d.lastHandle + 1⟩ true }
  | destroyEvent {d event} : Move d none { d with events := d.events.erase event }
  | destroyPool {d pool} (unused : d.Unused pool) :
      Move d none { d with pools := d.pools.erase pool }
  | unregister {d tracer} : Move d none { d with tracers := d.tracers.erase tracer }

variable {d d' : Driver}

/-- A pool is destroyed if it is live and none of its events is; else nothing happens. -/
theorem destroyPool_cases (d : Driver) (pool : EventPoolHandle) :
    (d.pools.contains pool = true ∧ d.Unused pool) ∧
        d.destroyPool pool = (.ok (), { d with pools := d.pools.erase pool }) ∨
      ¬ (d.pools.contains pool = true ∧ d.Unused pool) ∧
        d.destroyPool pool = (.error ⟨"zeEventPoolDestroy", invalidArgument⟩, d) := by
  by_cases hfree : d.pools.contains pool = true ∧ d.Unused pool
  · exact .inl ⟨hfree, destroyPool_of_empty hfree.1 hfree.2⟩
  · refine .inr ⟨hfree, ?_⟩
    unfold destroyPool
    split
    · rfl
    · rename_i hnone
      have hunused : d.Unused pool := by
        simpa [Unused, ← Table.mem_entries_iff] using hnone
      rw [if_neg fun hlive => hfree ⟨hlive, hunused⟩]

theorem quiet_refl (d : Driver) : Quiet d d :=
  ⟨rfl, rfl, rfl, rfl, fun _ => rfl, fun _ => rfl⟩

theorem quiet_of_settings (d : Driver) (timestampMask : UInt64)
    (failPool failEvent failRegister failToggle : Option Int32) :
    Quiet d { d with timestampMask, failPool, failEvent, failRegister, failToggle } :=
  ⟨rfl, rfl, rfl, rfl, fun _ => rfl, fun _ => rfl⟩

theorem quiet_of_devices (d : Driver) (device : DeviceHandle) (time : UInt64) :
    Quiet d { d with devices := d.devices.modify device fun s => { s with time } } :=
  ⟨rfl, outline_modify device time, rfl, rfl, fun _ => rfl, fun _ => rfl⟩

theorem quiet_of_events (d : Driver) (event : EventHandle) {f : EventState → EventState}
    (hf : ∀ st, (f st).pool = st.pool) : Quiet d { d with events := d.events.modify event f } :=
  ⟨rfl, rfl, rfl, rfl, (reports_modify event f hf).pool_of, fun _ => rfl⟩

theorem moves_ofChange {x : Except Fault Driver} (h : ∀ d', x = .ok d' → Quiet d d') :
    Move d (Reply.ofChange d x).1.created? (Reply.ofChange d x).2 := by
  cases x with
  | ok d' => exact .quiet (h d' rfl)
  | error e => exact .quiet (quiet_refl d)

theorem moves_ofAttempt {x : Except DriverError Unit × Driver} (h : Move d none x.2) :
    Move d (Reply.ofAttempt x).1.created? (Reply.ofAttempt x).2 := by
  obtain ⟨_ | _, d'⟩ := x <;> exact h

theorem perform_moves (d : Driver) (q : Request) :
    Move d (d.perform q).1.created? (d.perform q).2 := by
  cases q with
  | addDevice frequency subDevices => exact .device
  | setTimestampMask mask => exact .quiet (quiet_of_settings ..)
  | setDeviceTime device ticks =>
    refine moves_ofChange fun d' h => ?_
    obtain ⟨-, -, rfl⟩ := setDeviceTime_ok h
    exact quiet_of_devices d device ticks
  | advanceDeviceTime device ticks =>
    refine moves_ofChange fun d' h => ?_
    obtain ⟨-, time, -, -, rfl⟩ := advanceDeviceTime_ok h
    exact quiet_of_devices d device time
  | addKernel name simdWidth => exact .kernel
  | createContext | createList | createQueue | createImage => exact .plain
  | createUserEvent => exact .userEvent
  | signal event timestamp =>
    refine moves_ofChange fun d' h => ?_
    rw [signal_ok h]
    exact quiet_of_events d event fun _ => rfl
  | setEventStatus event status => exact .quiet (quiet_of_events d event fun _ => rfl)
  | hostReset event => exact .quiet (quiet_of_events d event fun _ => rfl)
  | failNextPool | failNextEvent | failNextRegister | failNextToggle =>
    exact .quiet (quiet_of_settings ..)
  | createPool context desc =>
    simp only [perform, createPool]
    cases d.failPool with
    | some code => exact .quiet (quiet_of_settings ..)
    | none => exact .pool
  | createEvent pool =>
    simp only [perform, createEvent]
    cases d.failEvent with
    | some code => exact .quiet (quiet_of_settings ..)
    | none =>
      cases hlive : d.pools.contains pool with
      | true => exact .event hlive
      | false => exact .quiet (quiet_refl d)
  | destroyEvent event =>
    refine moves_ofAttempt ?_
    unfold destroyEvent
    cases d.events.contains event with
    | true => exact .destroyEvent
    | false => exact .quiet (quiet_refl d)
  | destroyPool pool =>
    refine moves_ofAttempt ?_
    rcases destroyPool_cases d pool with ⟨⟨-, hunused⟩, heq⟩ | ⟨-, heq⟩
    · rw [heq]
      exact .destroyPool hunused
    · rw [heq]
      exact .quiet (quiet_refl d)
  | register =>
    simp only [perform, register]
    cases d.failRegister with
    | some code => exact .quiet (quiet_of_settings ..)
    | none => exact .tracer
  | setEnabled tracer enabled =>
    refine moves_ofAttempt ?_
    unfold setEnabled
    cases d.failToggle with
    | some code => exact .quiet (quiet_of_settings ..)
    | none =>
      cases hregistered : d.tracers.contains tracer with
      | true =>
        refine .quiet ⟨rfl, rfl, rfl, rfl, fun _ => rfl, fun t => ?_⟩
        -- Switching writes under a key that is there.
        show (d.tracers.insert tracer enabled).contains t = _
        rw [Table.contains_insert]
        by_cases ht : t = tracer
        · rw [ht, hregistered, Bool.or_true]
        · rw [decide_eq_false ht, Bool.false_or]
      | false => exact .quiet (quiet_refl d)
  | unregister tracer =>
    refine moves_ofAttempt ?_
    unfold unregister
    cases d.tracers.contains tracer with
    | true => exact .unregister
    | false => exact .quiet (quiet_refl d)

/-! ## What moves keep -/

def Below {kind : HandleKind} {α : Type} (t : Table (Handle kind) α) (bound : Nat) : Prop :=
  ∀ k, t.contains k = true → k.raw ≤ bound

section Below

variable {kind : HandleKind} {α : Type} {t : Table (Handle kind) α} {bound bound' : Nat}

theorem Below.mono (h : Below t bound) (hle : bound ≤ bound') : Below t bound' :=
  fun k hk => Nat.le_trans (h k hk) hle

theorem Below.insert (h : Below t bound) (a : α) : Below (t.insert ⟨bound + 1⟩ a) (bound + 1) := by
  intro k hk
  rw [Table.contains_insert, Bool.or_eq_true, decide_eq_true_eq] at hk
  rcases hk with rfl | hk
  · exact Nat.le_refl _
  · exact Nat.le_succ_of_le (h k hk)

theorem Below.erase (h : Below t bound) (k : Handle kind) : Below (t.erase k) bound := by
  intro j hj
  obtain ⟨a, ha⟩ := Option.isSome_iff_exists.mp hj
  exact h j (Option.isSome_iff_exists.mpr ⟨a, Table.get?_of_erase ha⟩)

theorem get?_insert_cases {k j : Handle kind} {a b : α} (h : (t.insert k a).get? j = some b) :
    b = a ∨ t.get? j = some b := by
  rw [Table.get?_insert] at h
  split at h
  · exact .inl (Option.some.inj h).symm
  · exact .inr h

end Below

/-- Every number in the tables was given, and every live event is in a live pool. -/
structure Intact (d : Driver) : Prop where
  devices : d.Enumerated
  kernels : Below d.kernels d.lastHandle
  pools : Below d.pools d.lastHandle
  events : Below d.events d.lastHandle
  tracers : Below d.tracers d.lastHandle
  pool_live : ∀ e st, d.events.get? e = some st → d.pools.contains st.pool = true

theorem intact_of (version : ApiVersion) (backend : Backend) : (of version backend).Intact :=
  ⟨enumerated_of version backend, nofun, nofun, nofun, nofun, nofun⟩

namespace Intact

theorem spend (h : d.Intact) (count : Nat) :
    { d with lastHandle := d.lastHandle + count }.Intact where
  devices := h.devices.of_outline (Nat.le_add_right _ _) rfl
  kernels := h.kernels.mono (Nat.le_add_right _ _)
  pools := h.pools.mono (Nat.le_add_right _ _)
  events := h.events.mono (Nat.le_add_right _ _)
  tracers := h.tracers.mono (Nat.le_add_right _ _)
  pool_live := h.pool_live

theorem quiet (h : d.Intact) (hq : Quiet d d') : d'.Intact where
  devices := h.devices.of_outline (Nat.le_of_eq hq.lastHandle.symm) hq.outline
  kernels := by
    rw [hq.kernels, hq.lastHandle]
    exact h.kernels
  pools := by
    rw [hq.pools, hq.lastHandle]
    exact h.pools
  events e he := by
    rw [hq.lastHandle]
    refine h.events e ?_
    have hpool := congrArg Option.isSome (hq.pool_of e)
    rw [Option.isSome_map, Option.isSome_map] at hpool
    exact hpool.symm.trans he
  tracers t ht := by
    rw [hq.lastHandle]
    exact h.tracers t (hq.tracers t ▸ ht)
  pool_live e st' he := by
    have hpool := hq.pool_of e
    rw [he, Option.map_some, eq_comm, Option.map_eq_some_iff] at hpool
    obtain ⟨st, hst, heq⟩ := hpool
    rw [hq.pools, ← heq]
    exact h.pool_live e st hst

theorem pool_live_insert (h : d.Intact) (desc : PoolDesc) {e : EventHandle} {st : EventState}
    (he : d.events.get? e = some st) :
    (d.pools.insert ⟨d.lastHandle + 1⟩ desc).contains st.pool = true := by
  rw [Table.contains_insert, h.pool_live e st he, Bool.or_true]

end Intact

theorem Move.intact {given : Option Nat} (h : Move d given d') (hd : d.Intact) : d'.Intact := by
  have hspent := hd.spend 1
  cases h with
  | quiet h => exact hd.quiet h
  | plain => exact hspent
  | device =>
    rename_i subDevices
    have hall := hd.spend (1 + subDevices)
    rw [← Nat.add_assoc] at hall
    exact { hall with devices := addDevice_enumerated hd.devices _ _ }
  | kernel =>
    exact { hspent with
      devices := hspent.devices.of_outline (Nat.le_refl _) rfl
      kernels := hd.kernels.insert _ }
  | pool =>
    exact { hspent with
      devices := hspent.devices.of_outline (Nat.le_refl _) rfl
      pools := hd.pools.insert _
      pool_live := fun e st he => hd.pool_live_insert _ he }
  | event live =>
    refine { hspent with
      devices := hspent.devices.of_outline (Nat.le_refl _) rfl
      events := hd.events.insert _
      pool_live := fun e st he => ?_ }
    rcases get?_insert_cases he with rfl | hold
    · exact live
    · exact hd.pool_live e st hold
  | userEvent =>
    refine { hd.spend 2 with
      devices := (hd.spend 2).devices.of_outline (Nat.le_refl _) rfl
      pools := (hd.pools.insert _).mono (Nat.le_succ _)
      events := hspent.events.insert _
      pool_live := fun e st he => ?_ }
    rcases get?_insert_cases he with rfl | hold
    · exact Table.contains_insert_self _ _ _
    · exact hd.pool_live_insert _ hold
  | tracer =>
    exact { hspent with
      devices := hspent.devices.of_outline (Nat.le_refl _) rfl
      tracers := hd.tracers.insert _ }
  | destroyEvent =>
    exact { hd with
      devices := hd.devices.of_outline (Nat.le_refl _) rfl
      events := hd.events.erase _
      pool_live := fun e st he => hd.pool_live e st (Table.get?_of_erase he) }
  | destroyPool unused =>
    refine { hd with
      devices := hd.devices.of_outline (Nat.le_refl _) rfl
      pools := hd.pools.erase _
      pool_live := fun e st he => ?_ }
    -- The pool of a live event is another one than the pool that goes.
    show ((d.pools.erase _).get? st.pool).isSome = true
    rw [Table.get?_erase, if_neg (unused e st he)]
    exact hd.pool_live e st he
  | unregister =>
    exact { hd with
      devices := hd.devices.of_outline (Nat.le_refl _) rfl
      tracers := hd.tracers.erase _ }

theorem Move.numbers {given : Option Nat} (h : Move d given d') :
    d.lastHandle ≤ d'.lastHandle ∧ ∀ n ∈ given, d.lastHandle < n ∧ n ≤ d'.lastHandle := by
  have hnext : ∀ m, d.lastHandle + 1 ≤ m → d.lastHandle ≤ m ∧
      ∀ n ∈ some (d.lastHandle + 1), d.lastHandle < n ∧ n ≤ m := by
    intro m hm
    refine ⟨Nat.le_of_succ_le hm, ?_⟩
    rintro _ ⟨⟩
    exact ⟨Nat.lt_succ_self _, hm⟩
  cases h with
  | quiet h => exact ⟨Nat.le_of_eq h.lastHandle.symm, nofun⟩
  | destroyEvent | destroyPool | unregister => exact ⟨Nat.le_refl _, nofun⟩
  | plain | kernel | pool | event | tracer => exact hnext _ (Nat.le_refl _)
  | device => exact hnext _ (Nat.le_add_right _ _)
  | userEvent =>
    refine ⟨Nat.le_add_right _ 2, ?_⟩
    rintro _ ⟨⟩
    exact ⟨Nat.lt_succ_of_lt (Nat.lt_succ_self _), Nat.le_refl _⟩

/-! ## Runs -/

theorem Intact.afterAll (h : d.Intact) (requests : List Request) :
    (d.afterAll requests).Intact := by
  induction requests generalizing d with
  | nil => exact h
  | cons q requests ih => exact ih ((d.perform_moves q).intact h)

/-- What is in the tables has a number up to the counter. -/
theorem Intact.numbers_le (h : d.Intact) {n : Nat} (hn : n ∈ d.numbers) : n ≤ d.lastHandle := by
  have hkeys : ∀ {kind : HandleKind} {α : Type} {t : Table (Handle kind) α},
      Below t d.lastHandle → n ∈ t.keys.map (·.raw) → n ≤ d.lastHandle := by
    intro kind α t hbelow hmem
    obtain ⟨k, hk, rfl⟩ := List.mem_map.mp hmem
    exact hbelow k (Table.mem_keys_iff.mp hk)
  unfold numbers at hn
  simp only [List.mem_append] at hn
  rcases hn with (((hdevice | hkernel) | hpool) | hevent) | htracer
  · obtain ⟨o, ho, hmem⟩ := List.mem_flatMap.mp hdevice
    obtain ⟨device, hlisted, rfl⟩ := List.mem_map.mp hmem
    exact h.devices.given o ho device hlisted
  · exact hkeys h.kernels hkernel
  · exact hkeys h.pools hpool
  · exact hkeys h.events hevent
  · exact hkeys h.tracers htracer

/-- The counter goes up, and calls answer numbers that it passes. -/
theorem lastHandle_afterAll (d : Driver) (requests : List Request) :
    d.lastHandle ≤ (d.afterAll requests).lastHandle ∧
      ∀ n ∈ d.handed requests, d.lastHandle < n ∧ n ≤ (d.afterAll requests).lastHandle := by
  induction requests generalizing d with
  | nil => exact ⟨Nat.le_refl _, List.forall_mem_nil _⟩
  | cons q requests ih =>
    obtain ⟨hmono, hgiven⟩ := (d.perform_moves q).numbers
    obtain ⟨hmono', hlater⟩ := ih (d.after q)
    refine ⟨Nat.le_trans hmono hmono', fun n hn => ?_⟩
    rcases List.mem_append.mp hn with hnow | hlater'
    · obtain ⟨hlt, hle⟩ := hgiven n (Option.mem_toList.mp hnow)
      exact ⟨hlt, Nat.le_trans hle hmono'⟩
    · obtain ⟨hlt, hle⟩ := hlater n hlater'
      exact ⟨Nat.lt_of_le_of_lt hmono hlt, hle⟩

/-- Each number that is answered is larger than those before. -/
theorem pairwise_handed (d : Driver) (requests : List Request) :
    (d.handed requests).Pairwise (· < ·) := by
  induction requests generalizing d with
  | nil => exact .nil
  | cons q requests ih =>
    refine List.pairwise_append.mpr ⟨?_, ih (d.after q), fun n hn m hm => ?_⟩
    · cases (d.perform q).1.created? with
      | none => exact .nil
      | some n => exact List.pairwise_singleton _ _
    · have hle := ((d.perform_moves q).numbers.2 n (Option.mem_toList.mp hn)).2
      exact Nat.lt_of_le_of_lt hle (((d.after q).lastHandle_afterAll requests).2 m hm).1

/-- Whatever is asked of a driver: no handle is answered twice, nor one of an object that is in a
table; every live event is in a live pool; and a pool is destroyed exactly if it is live and no live
event is in it. -/
theorem tables_intact (version : ApiVersion) (backend : Backend) (requests : List Request) :
    let d := (of version backend).afterAll requests
    let handed := (of version backend).handed requests
    handed.Pairwise (· < ·) ∧
      (∀ later, ∀ n ∈ d.handed later, n ∉ handed ∧ n ∉ d.numbers) ∧
      (∀ event st, d.events.get? event = some st → d.pools.contains st.pool = true) ∧
      ∀ pool,
        ((d.destroyPool pool).1 = .ok () ↔ d.pools.contains pool = true ∧
          ∀ event st, d.events.get? event = some st → st.pool ≠ pool) ∧
        ((d.destroyPool pool).1 ≠ .ok () →
          d.destroyPool pool = (.error ⟨"zeEventPoolDestroy", invalidArgument⟩, d)) := by
  intro d handed
  have hintact : d.Intact := (intact_of version backend).afterAll requests
  refine ⟨pairwise_handed _ requests, fun later n hn => ?_, hintact.pool_live, fun pool => ?_⟩
  · have hlt := ((d.lastHandle_afterAll later).2 n hn).1
    refine ⟨fun hmem => ?_, fun hmem => ?_⟩
    · exact Nat.not_lt_of_le ((lastHandle_afterAll _ requests).2 n hmem).2 hlt
    · exact Nat.not_lt_of_le (hintact.numbers_le hmem) hlt
  · rcases d.destroyPool_cases pool with ⟨hfree, heq⟩ | ⟨hused, heq⟩
    · rw [heq]
      exact ⟨iff_of_true rfl hfree, fun hne => absurd rfl hne⟩
    · rw [heq]
      exact ⟨iff_of_false nofun hused, fun _ => rfl⟩

/-- Devices, pools and events with failures among them: a pool is destroyed after its event, and
another one, with an event, is there in the end. -/
def mishaps : List Request :=
  [.addDevice 1000 2, .createUserEvent, .createContext, .createPool ⟨6⟩ .profiling,
    .failNextEvent 5, .createEvent ⟨7⟩, .createEvent ⟨7⟩, .destroyPool ⟨7⟩, .destroyEvent ⟨8⟩,
    .destroyPool ⟨7⟩, .createEvent ⟨7⟩, .failNextPool 3, .createPool ⟨6⟩ .profiling,
    .createPool ⟨6⟩ .profiling, .createEvent ⟨9⟩, .signal ⟨8⟩ ⟨1, 2⟩, .register]

/-- The tiles and the pool of the user event have numbers that are not answered. The last pool has
a live event, so destroying it fails and changes nothing. -/
theorem tables_intact_mishaps :
    let d := standard.afterAll mishaps
    standard.handed mishaps = [1, 5, 6, 7, 8, 9, 10, 11] ∧
      (∀ n ∈ d.handed [.addKernel "fill" 16, .createPool ⟨6⟩ .profiling], n ∉ d.numbers) ∧
      d.numbers = [2, 3, 1, 2, 3, 4, 9, 5, 10, 11] ∧
      d.destroyPool ⟨9⟩ = (.error ⟨"zeEventPoolDestroy", invalidArgument⟩, d) ∧
      ((d.destroyEvent ⟨10⟩).2.destroyPool ⟨9⟩).1 = .ok () := by
  intro d
  obtain ⟨-, hfresh, -, hdestroy⟩ := tables_intact ⟨1, 2⟩ .computeDriver mishaps
  obtain ⟨hiff, hsame⟩ := hdestroy ⟨9⟩
  have hused : (d.destroyPool ⟨9⟩).1 ≠ .ok () := by
    refine hiff.not.mpr ?_
    rintro ⟨-, hunused⟩
    exact hunused ⟨10⟩ (newEvent ⟨9⟩) (by decide +kernel) rfl
  exact ⟨by decide +kernel, fun n hn => (hfresh _ n hn).2, by decide +kernel, hsame hused,
    by decide +kernel⟩

end GpuTrace.Driver
