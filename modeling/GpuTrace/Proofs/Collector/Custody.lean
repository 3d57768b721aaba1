import GpuTrace.Proofs.Collector.Completion
import GpuTrace.Proofs.Driver.Custody
import GpuTrace.Proofs.Registry.Growth

/-!
# Custody at work — the events that a collector makes and destroys

The events in the tracer's custody are those of the registered commands
(`Registry.owned`) and those of the appends in flight. Registering a command and freeing
the commands of a list move them around (`Registry.Move.owned_append`,
`Registry.Move.owned_frees`); the other changes of the registry leave them alone.

`enterAppend_custody` makes the event of an append and `releaseCommands_custody` destroys
those of commands, and the driver never refuses to. `KeepsCustody` is what all other hooks do,
whatever their end; an append that stops half-way may leave its event to nobody
(`exitAppend_custody`).
-/

namespace GpuTrace

open Fallible

/-- The pool and the event that the tracer has to destroy. -/
def SignalEvent.owned? : SignalEvent → Option (EventPoolHandle × EventHandle)
  | .owned pool event => some (pool, event)
  | .borrowed _ => none

def ownedOf (commands : List Command) : List (EventPoolHandle × EventHandle) :=
  commands.filterMap (·.signal.owned?)

theorem ownedOf_cons (command : Command) (commands : List Command) :
    ownedOf (command :: commands) = command.signal.owned?.toList ++ ownedOf commands := by
  unfold ownedOf
  cases h : command.signal.owned? <;> simp [h]

theorem ownedOf_append (commands commands' : List Command) :
    ownedOf (commands ++ commands') = ownedOf commands ++ ownedOf commands' :=
  List.filterMap_append

theorem ownedOf_modify {f : Command → Command} (hf : ∀ c, (f c).signal = c.signal) (slot : Nat)
    (commands : List Command) : ownedOf (commands.modify slot f) = ownedOf commands := by
  induction commands generalizing slot with
  | nil => rw [List.modify_nil]
  | cons c commands ih =>
    cases slot with
    | zero => rw [List.modify_zero_cons, ownedOf_cons, ownedOf_cons, hf]
    | succ slot => rw [List.modify_succ_cons, ownedOf_cons, ownedOf_cons, ih]

namespace CommandList

def owned (info : CommandList) : List (EventPoolHandle × EventHandle) :=
  ownedOf info.commands.toList

theorem owned_append (command : Command) (info : CommandList) :
    (info.append command).owned = info.owned ++ command.signal.owned?.toList := by
  unfold owned append
  rw [Array.toList_push, ownedOf_append, ownedOf_cons]
  exact congrArg _ (List.append_nil _)

theorem owned_call (slot callId : Nat) (info : CommandList) :
    (info.call slot callId).owned = info.owned := by
  unfold owned call
  rw [Array.toList_modify]
  exact ownedOf_modify (f := fun c => { c with callCount := callId }) (fun _ => rfl) slot _

end CommandList

namespace Registry

def ownedIn (lists : Table CommandListHandle CommandList) : List (EventPoolHandle × EventHandle) :=
  lists.values.flatMap (·.owned)

def owned (r : Registry) : List (EventPoolHandle × EventHandle) :=
  ownedIn r.lists

theorem owned_eq_ownedOf (r : Registry) : r.owned = ownedOf r.commands := by
  simp [owned, ownedIn, commands, ownedOf, List.filterMap_flatMap, CommandList.owned]

section Lists

variable {lists : Table CommandListHandle CommandList} {list : CommandListHandle}
  {info : CommandList} {f : CommandList → CommandList}

theorem ownedIn_of_found (found : lists.get? list = some info) :
    (ownedIn lists).Perm (info.owned ++ ownedIn (lists.erase list)) :=
  (Table.values_perm found).flatMap_right _

theorem ownedIn_modify (found : lists.get? list = some info) :
    (ownedIn (lists.modify list f)).Perm ((f info).owned ++ ownedIn (lists.erase list)) :=
  (Table.values_modify_perm f found).flatMap_right _

theorem ownedIn_modify_same (hf : ∀ info, (f info).owned = info.owned) :
    (ownedIn (lists.modify list f)).Perm (ownedIn lists) := by
  cases found : lists.get? list with
  | none => rw [Table.modify_of_absent f found]
  | some info =>
    have h := ownedIn_modify (f := f) found
    rw [hf] at h
    exact h.trans (ownedIn_of_found found).symm

end Lists

variable {r r' : Registry} {change : Change} {list : CommandListHandle}

theorem Move.owned_plain (hm : Move r change r') (hplain : change.isPlain = true) :
    r'.owned.Perm r.owned := by
  cases hm with
  | spendEpoch => exact .refl _
  | spendKernelId => exact .refl _
  | caches => exact .refl _
  | clear => exact ownedIn_modify_same fun _ => rfl
  | call => exact ownedIn_modify_same (CommandList.owned_call _ _)
  | create absent =>
    refine (Table.values_insert_perm.flatMap_right _).trans ?_
    rw [Table.erase_of_absent absent]
    exact .refl _
  | _ => cases hplain

theorem Reaches.owned_plain (h : Reaches (·.isPlain = true) r r') : r'.owned.Perm r.owned :=
  h.induct (I := fun r' => r'.owned.Perm r.owned) (.refl _)
    fun _ _ _ hplain hm hi => (hm.owned_plain hplain).trans hi

/-- Taking calls out leaves the commands alone. -/
theorem Reaches.owned_take (h : Reaches (fun c => ∃ index, c = .take index) r r') :
    r'.owned = r.owned := by
  refine h.induct (I := fun r' => r'.owned = r.owned) rfl ?_
  rintro _ _ _ ⟨index, rfl⟩ hm hi
  cases hm
  exact hi

theorem Move.owned_append {command : Command} (hm : Move r (.append list command) r') :
    r'.owned.Perm (command.signal.owned?.toList ++ r.owned) := by
  cases hm with
  | append found =>
    refine (ownedIn_modify found).trans ?_
    rw [CommandList.owned_append]
    refine (List.perm_append_comm.append_right _).trans ?_
    rw [List.append_assoc]
    exact (ownedIn_of_found found).symm.append_left _

/-- Commands that are freed leave with their events. -/
theorem Move.owned_frees (hm : Move r change r') (hfrees : change.frees? = some list)
    {info : CommandList} (found : r.lists.get? list = some info) :
    r.owned.Perm (info.owned ++ r'.owned) := by
  refine (ownedIn_of_found found).trans (.append_left _ ?_)
  cases hm with
  | reset =>
    cases hfrees
    have h := ownedIn_modify (f := CommandList.emptied r.nextEpoch) found
    exact h.symm
  | remove =>
    cases hfrees
    exact .refl _
  | _ => cases hfrees

end Registry

namespace Tracing

/-- The events and pools are in custody, and none that the tracer wanted to destroy was kept
by the driver. -/
structure Custody (apart : Prop) (t : Tracing) (events : List EventHandle)
    (pools : List EventPoolHandle) (owned : List (EventPoolHandle × EventHandle)) : Prop where
  driver : t.driver.Custody apart events pools owned
  no_event_kept : ∀ event e, Warning.eventKept event e ∉ t.journal.warnings
  no_pool_kept : apart → ∀ pool e, Warning.poolKept pool e ∉ t.journal.warnings

variable {apart : Prop} {t t' : Tracing} {events events' : List EventHandle}
  {pools pools' : List EventPoolHandle}
  {owned owned' : List (EventPoolHandle × EventHandle)}

namespace Custody

theorem perm (h : t.Custody apart events pools owned) (hp : owned.Perm owned') :
    t.Custody apart events pools owned' :=
  ⟨h.driver.perm hp, h.no_event_kept, h.no_pool_kept⟩

theorem same (h : t.Custody apart events pools owned) (hd : t'.driver = t.driver)
    (hw : t'.journal.warnings = t.journal.warnings) : t'.Custody apart events pools owned :=
  ⟨hd ▸ h.driver, hw ▸ h.no_event_kept, hw ▸ h.no_pool_kept⟩

theorem moved (h : t.Custody apart events pools owned)
    (hd : t'.driver.Custody apart events' pools' owned')
    (hw : t'.journal.warnings = t.journal.warnings) : t'.Custody apart events' pools' owned' :=
  ⟨hd, hw ▸ h.no_event_kept, hw ▸ h.no_pool_kept⟩

theorem untraced (h : t.Custody apart events pools owned) (name : String) (e : SetupError) :
    Custody apart { t with journal := t.journal.warn (.untraced name e) } events pools owned where
  driver := h.driver
  no_event_kept event e := by simpa [Journal.warn] using h.no_event_kept event e
  no_pool_kept ha pool e := by simpa [Journal.warn] using h.no_pool_kept ha pool e

/-- The driver may keep a pool unless the tracer and the application keep apart. -/
theorem poolKept (h : t.Custody apart events pools owned) (hnot : ¬ apart) (pool : EventPoolHandle)
    (e : DriverError) :
    Custody apart { t with journal := t.journal.warn (.poolKept pool e) } events pools owned where
  driver := h.driver
  no_event_kept event e := by simpa [Journal.warn] using h.no_event_kept event e
  no_pool_kept ha := absurd ha hnot

end Custody

/-! ## Making events -/

theorem createProfilingEvent_custody (h : t.Custody apart events pools owned)
    (context : ContextHandle) :
    Ends (createProfilingEvent context) t
      (fun made t' => t'.Custody apart events pools
        ((made.toOption.bind (·.owned?)).toList ++ owned))
      (fun _ _ => False) := by
  unfold createProfilingEvent
  simp only [ends_bind, ends_onDriver]
  cases hp : t.driver.createPool context PoolDesc.profiling with
  | mk made d₁ =>
    cases made with
    | error e =>
      obtain rfl := Driver.createPool_error hp
      exact h.moved (h.driver.same (Nat.le_refl _) rfl rfl) rfl
    | ok pool =>
      dsimp only
      simp only [ends_bind, ends_onDriver]
      cases he : d₁.createEvent pool with
      | mk made d₂ =>
        cases made with
        | ok event => exact h.moved (h.driver.make hp he) rfl
        | error e =>
          obtain ⟨hok, hd⟩ := h.driver.unmake hp he
          dsimp only
          simp only [ends_bind, ends_onDriver]
          rw [hok]
          exact h.moved hd rfl

theorem signalFor_custody (h : t.Custody apart events pools owned) (context : ContextHandle)
    (name : String) (signal : Option EventHandle) :
    Ends (signalFor context name signal) t
      (fun made t' => t'.Custody apart events pools ((made.bind (·.owned?)).toList ++ owned))
      (fun _ _ => False) := by
  unfold signalFor
  cases signal with
  | some event => exact h
  | none =>
    dsimp only
    rw [ends_bind]
    refine (createProfilingEvent_custody h context).imp ?_ fun _ _ h => h
    intro made t' h'
    cases made with
    | ok signal => exact h'
    | error e => exact h'.untraced name e

/-- The event of an append in flight, if it was made for it, is in custody, also if the append
stopped behind it. -/
theorem enterAppend_custody (h : t.Custody apart events pools owned) (list : CommandListHandle)
    (op : Operation) (signal : Option EventHandle) :
    Ends (enterAppend list op signal) t
      (fun answer t' => t'.Custody apart events pools
        ((answer.inFlight.bind (·.command.signal.owned?)).toList ++ owned))
      (fun _ t' => ∃ lost, t'.Custody apart events pools (lost ++ owned)) := by
  unfold enterAppend
  simp only [ends_bind, ends_get]
  split
  · exact h
  · refine ends_bind_lift (fun device _ => ?_) fun _ _ => ⟨[], h⟩
    refine ends_bind_lift (fun props _ => ?_) fun _ _ => ⟨[], h⟩
    refine ends_bind_lift (fun anchor _ => ?_) fun _ _ => ⟨[], h⟩
    refine ends_bind_lift (fun context _ => ?_) fun _ _ => ⟨[], h⟩
    rw [ends_bind]
    refine (signalFor_custody h context props.name signal).imp_ok ?_
    intro made t' h'
    cases made with
    | none => exact h'
    | some signalEvent =>
      dsimp only
      rw [ends_bind, ends_get]
      refine ends_bind_lift (fun frequency _ => ?_) fun _ _ => ⟨_, h'⟩
      refine ends_bind_lift (fun command hcommand => ?_) fun _ _ => ⟨_, h'⟩
      rw [Command.eq_of_ok hcommand]
      exact h'

/-! ## Destroying events -/

theorem releaseCommand_custody {command : Command}
    (h : t.Custody apart events pools (command.signal.owned?.toList ++ owned)) :
    Ends (releaseCommand command) t (fun _ t' => t'.Custody apart events pools owned)
      (fun _ _ => False) := by
  unfold releaseCommand
  cases hs : command.signal with
  | borrowed event =>
    rw [hs] at h
    exact h
  | owned pool event =>
    rw [hs] at h
    obtain ⟨hevent, hpool, hrest⟩ := h.driver.release
    dsimp only
    simp only [ends_bind, ends_onDriver]
    rw [hevent]
    simp only [ends_bind, ends_onDriver]
    have hfreed : Custody apart { t with
        driver := ((t.driver.destroyEvent event).2.destroyPool pool).2 } events pools owned :=
      h.moved hrest rfl
    cases hkept : ((t.driver.destroyEvent event).2.destroyPool pool).1 with
    | ok _ => exact hfreed
    | error e =>
      have hnot : ¬ apart := fun ha => by
        rw [hpool ha] at hkept
        cases hkept
      exact hfreed.poolKept hnot pool e

/-- The events of all commands are destroyed, each once. -/
theorem releaseCommands_custody {commands : List Command}
    (h : t.Custody apart events pools (ownedOf commands ++ owned)) :
    Ends (releaseCommands commands) t (fun _ t' => t'.Custody apart events pools owned)
      (fun _ _ => False) := by
  induction commands generalizing t with
  | nil => exact h
  | cons command commands ih =>
    rw [ownedOf_cons, List.append_assoc] at h
    show Ends (releaseCommand command >>= fun _ => releaseCommands commands) t _ _
    rw [ends_bind]
    exact (releaseCommand_custody h).imp (fun _ _ h' => ih h') (fun _ _ h' => h')

/-! ## Whatever the end -/

/-- What is in custody beside the events of registered commands stays in custody. -/
def KeepsCustody (t t' : Tracing) : Prop :=
  ∀ apart events pools rest, t.Custody apart events pools (t.registry.owned ++ rest) →
    t'.Custody apart events pools (t'.registry.owned ++ rest)

instance : IsPreorder Tracing KeepsCustody where
  refl _ _ _ _ _ h := h
  trans _ _ _ h h' apart events pools rest hc := h' _ _ _ _ (h apart events pools rest hc)

theorem ends_keepsCustody {α : Type} {step : Fallible Tracing α}
    (h : ∀ apart events pools rest, t'.Custody apart events pools (t'.registry.owned ++ rest) →
      Ends step t (fun _ t'' => t''.Custody apart events pools (t''.registry.owned ++ rest))
        (fun _ t'' => t''.Custody apart events pools (t''.registry.owned ++ rest))) :
    Ends step t (fun _ => KeepsCustody t') (fun _ => KeepsCustody t') := by
  refine ends_self.imp ?_ ?_
  · exact fun a t'' hs apart events pools rest hc => (h apart events pools rest hc).of_ok hs
  · exact fun e t'' hs apart events pools rest hc => (h apart events pools rest hc).of_error hs

theorem ViaRegistry.keepsCustody (h : ViaRegistry (·.isPlain = true) t t') : KeepsCustody t t' := by
  obtain ⟨r, hr, rfl⟩ := h
  intro apart events pools rest hc
  exact (hc.perm (hr.owned_plain.symm.append_right rest)).same rfl rfl

theorem ViaCompletion.keepsCustody (h : ViaCompletion t t') : KeepsCustody t t' := by
  obtain ⟨r, p, hr, rfl⟩ := h
  intro apart events pools rest hc
  have howned : r.owned = t.registry.owned := hr.owned_take
  show Tracing.Custody apart _ events pools (r.owned ++ rest)
  rw [howned]
  exact hc.same rfl rfl

theorem notify_keepsCustody (finished : List KernelFinish) :
    Within KeepsCustody (notify finished) := fun t => by
  refine (notify_ends finished).imp_ok ?_
  rintro - _ ⟨notices, rfl, -⟩ apart events pools rest hc
  exact hc.same rfl rfl

theorem processEvent_keepsCustody (event : EventHandle) :
    Within KeepsCustody (processEvent event) := by
  unfold processEvent
  refine within_bind ((completeEvent_within event).imp fun _ _ h => h.keepsCustody)
    fun found => ?_
  split
  · exact within_bind (notify_keepsCustody _) fun _ => within_pure _
  · exact within_pure _

theorem processCalls_keepsCustody : Within KeepsCustody processCalls := by
  unfold processCalls
  exact within_bind (sweep_within.imp fun _ _ h => h.keepsCustody) fun _ =>
    within_bind (notify_keepsCustody _) fun _ => within_pure _

/-- A list that is freed takes its events with it: they are destroyed. -/
theorem drainAndFree_keepsCustody {take : Fallible Registry (Array Command)}
    (htake : ∀ r, Ends take r
      (fun commands r' => ∃ change list info, change.frees? = some list ∧
        Registry.Move r change r' ∧ r.lists.get? list = some info ∧ commands = info.commands)
      (fun _ r' => Registry.Move r .spendEpoch r')) :
    Within KeepsCustody (drainAndFree take) := by
  unfold drainAndFree
  refine within_bind (sweep_within.imp fun _ _ h => h.keepsCustody) fun finished t => ?_
  simp only [ends_bind, ends_onRegistry]
  refine (htake _).imp ?_ ?_
  · rintro _ r ⟨change, list, info, hfrees, move, found, rfl⟩
    refine (notify_ends finished).imp_ok ?_
    rintro - _ ⟨notices, rfl, -⟩
    refine ends_keepsCustody fun apart events pools rest hc => ?_
    have hperm : (t.registry.owned ++ rest).Perm (info.owned ++ (r.owned ++ rest)) := by
      rw [← List.append_assoc]
      exact (move.owned_frees hfrees found).append_right rest
    have hcustody : Tracing.Custody apart
        { t.withRegistry r with journal := { t.journal with notices } } events pools
        (ownedOf info.commands.toList ++ (r.owned ++ rest)) := (hc.perm hperm).same rfl rfl
    have hrelease := releaseCommands_custody hcustody
    refine ((releaseCommands_within _ _).and hrelease).imp ?_ fun _ _ h => h.2.elim
    rintro - _ ⟨⟨driver, warnings, -, rfl⟩, ht⟩
    exact ht
  · rintro e r move
    exact ViaRegistry.keepsCustody ⟨r, move.reaches rfl, rfl⟩

theorem setEnabled_keepsCustody (enabled : Bool) : Within KeepsCustody (setEnabled enabled) := by
  unfold setEnabled
  intro t
  simp only [ends_bind, ends_get, ends_onDriver]
  have hd := Driver.setEnabled_untouched (d := t.driver) t.collector.tracer enabled
  split
  · exact fun apart events pools rest hc => hc.moved (hc.driver.untouched hd) rfl
  · exact fun apart events pools rest hc => hc.moved (hc.driver.untouched hd) rfl

/-- The event of an append that ends goes to the registered command, is destroyed, or is lost if
the append can not be registered. -/
theorem exitAppend_custody {append : InFlightAppend} {rest : List (EventPoolHandle × EventHandle)}
    (h : t.Custody apart events pools
      (t.registry.owned ++ (append.command.signal.owned?.toList ++ rest)))
    (result : DriverResult) :
    Ends (exitAppend append result) t
      (fun _ t' => ∃ lost, t'.Custody apart events pools (t'.registry.owned ++ (lost ++ rest)))
      (fun _ t' => ∃ lost,
        t'.Custody apart events pools (t'.registry.owned ++ (lost ++ rest))) := by
  cases result with
  | error e =>
    have hswap : (t.registry.owned ++ (append.command.signal.owned?.toList ++ rest)).Perm
        (append.command.signal.owned?.toList ++ (t.registry.owned ++ rest)) := by
      rw [← List.append_assoc, ← List.append_assoc]
      exact List.perm_append_comm.append_right rest
    refine ((releaseCommand_within append.command t).and
      (releaseCommand_custody (h.perm hswap))).imp ?_ fun _ _ h => h.2.elim
    rintro - _ ⟨⟨driver, warnings, -, rfl⟩, ht⟩
    exact ⟨[], ht⟩
  | ok _ =>
    unfold exitAppend
    simp only [ends_bind, ends_onRegistry]
    refine (Registry.addCommand_ends append.command).imp ?_ ?_
    · rintro ref r ⟨move, -⟩
      have hperm : (t.registry.owned ++ (append.command.signal.owned?.toList ++ rest)).Perm
          (r.owned ++ rest) := by
        rw [← List.append_assoc]
        refine List.Perm.append_right rest ?_
        exact List.perm_append_comm.trans move.owned_append.symm
      have hregistered : Tracing.Custody apart (t.withRegistry r) events pools
          ((t.withRegistry r).registry.owned ++ rest) := (h.perm hperm).same rfl rfl
      split
      · rw [ends_onRegistry]
        refine (Registry.addCall_ends _).imp ?_ ?_
        · rintro - r' call
          have hkeeps : KeepsCustody (t.withRegistry r) (t.withRegistry r') :=
            ViaRegistry.keepsCustody ⟨r', call.reaches rfl, rfl⟩
          exact ⟨[], hkeeps _ _ _ _ hregistered⟩
        · rintro - _ rfl
          exact ⟨[], hregistered⟩
      · exact ⟨[], hregistered⟩
    · rintro e r move
      have hkeeps := ViaRegistry.keepsCustody (t := t) ⟨r, move.reaches rfl, rfl⟩
      exact ⟨_, hkeeps _ _ _ _ h⟩

end Tracing

end GpuTrace
