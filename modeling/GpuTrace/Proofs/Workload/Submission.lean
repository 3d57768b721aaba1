import GpuTrace.Proofs.Workload.Signals
import GpuTrace.Proofs.Workload.Stage

/-!
# Submission of the workload — one execution of the deferred list

An execution calls every command of the list once more (`Stage.execute`). When the events of all
commands have completed one behind the other, every pending call can be finished, and what finishes
is known for each slot (`Stage.finished_slot`). So a sweep takes in all calls in the order of the
slots (`Stage.sweeps`), and the collector is on a stage again with each command called once more
(`Stage.submit`).
-/

namespace GpuTrace

open Fallible Tracing

theorem getElem?_filterMap_of_forall {α β : Type} {g : α → Option β} {P : Nat → β → Prop}
    {xs : List α} (h : ∀ i x, xs[i]? = some x → ∃ y, g x = some y ∧ P i y) :
    (xs.filterMap g).length = xs.length ∧ ∀ i y, (xs.filterMap g)[i]? = some y → P i y := by
  induction xs generalizing P with
  | nil => exact ⟨rfl, nofun⟩
  | cons x xs ih =>
    obtain ⟨y, hy, hP⟩ := h 0 x rfl
    obtain ⟨hlength, hrest⟩ := ih (P := fun i => P (i + 1)) fun i x hx => h (i + 1) x hx
    rw [List.filterMap_cons_some hy]
    refine ⟨congrArg Nat.succ hlength, fun i y' hy' => ?_⟩
    cases i with
    | zero =>
      cases hy'
      exact hP
    | succ i => exact hrest i y' hy'

theorem CommandList.owned_called (info : CommandList) (k : Nat) :
    (info.called k).owned = info.owned := by
  have hsignals := CommandList.map_called (fun c => c.signal) (fun _ _ => rfl) info k
  have howned : ∀ info : CommandList,
      info.owned = (info.commands.toList.map fun c => c.signal).filterMap (·.owned?) := by
    intro info
    rw [List.filterMap_map]
    rfl
  rw [howned, howned, hsignals]

theorem snd_ownedOf {commands : List Command} (h : ∀ c ∈ commands, c.signal.isOwned = true) :
    (ownedOf commands).map Prod.snd = commands.map (·.event) := by
  induction commands with
  | nil => rfl
  | cons c commands ih =>
    obtain ⟨hc, hcommands⟩ := List.forall_mem_cons.mp h
    rw [ownedOf_cons, List.map_append, ih hcommands]
    unfold Command.event
    cases hs : c.signal with
    | owned pool event => simp [SignalEvent.owned?, SignalEvent.event, hs]
    | borrowed event =>
      rw [hs] at hc
      cases hc

namespace Workload

variable {device : DeviceHandle} {list : CommandListHandle} {info : CommandList}
  {queue : QueueHandle} {calls budget : Nat} {time stop : UInt64} {t t' : Tracing}

/-! ## Execution -/

def executed (list : CommandListHandle) (info : CommandList) (queue : QueueHandle)
    (anchor : SubmitAnchor) (r : Registry) : Registry :=
  r.calledTo list info.clear queue anchor info.commands.size

theorem Serves.anchorOn (h : Serves device budget t)
    (htimer : t.driver.devices.get? device = some ⟨timerFrequency, time, [], true⟩) :
    t.anchorOn device = .ok ⟨t.now, time⟩ := by
  have hmask : time &&& 0xFFFFFFFFFFFFFFFF = time := UInt64.and_neg_one
  rw [anchorOn_eq htimer, h.unmasked, hmask]

theorem deviceTimestamp_of_timer {d : Driver} {state : DeviceState}
    (htimer : d.devices.get? device = some state) : d.deviceTimestamp device = .ok state.time := by
  unfold Driver.deviceTimestamp Driver.device
  rw [htimer]
  rfl

/-- **An execution** calls all commands of the list, with an anchor from the clock and the timer. -/
theorem Stage.execute (h : Stage device list info calls budget t)
    (htimer : t.driver.devices.get? device = some ⟨timerFrequency, time, [], true⟩) :
    Workload.execute queue list t =
      .ok () (t.withRegistry (executed list info queue ⟨t.now, time⟩ t.registry)) := by
  have hfound := h.holds.found
  have hanchor := h.serves.anchorOn htimer
  have hold : ∀ c ∈ info.commands, c.appendTime ≤ t.now := by
    intro c hc
    obtain ⟨slot, hslot⟩ := Array.mem_iff_getElem?.mp hc
    exact (h.fits slot c hslot).appended
  have hadd : Registry.addCalls list queue ⟨t.now, time⟩ t.registry =
      .ok info.commands.size (executed list info queue ⟨t.now, time⟩ t.registry) :=
    Registry.addCalls_put hfound h.deferred hold
  have hdevice : t.registry.device list = .ok device := by
    unfold Registry.device
    rw [Registry.list_eq_ok_iff.mpr hfound, ← h.device_eq]
    rfl
  have himmediate : t.registry.isImmediate list = .ok false := by
    unfold Registry.isImmediate
    rw [Registry.list_eq_ok_iff.mpr hfound, ← h.deferred]
    rfl
  have henter : enterExecute queue [list] t = .ok (some ⟨queue, [(list, ⟨t.now, time⟩)]⟩) t := by
    rw [eq_ok_iff_ends]
    unfold enterExecute
    simp only [ends_bind, ends_get, h.serves.enabled, List.mapM_cons, List.mapM_nil, ends_lift,
      hdevice, hanchor, ends_pure, Bool.not_true, Bool.false_eq_true, if_false, and_self]
  have hsubmit : submitList queue list ⟨t.now, time⟩ t =
      .ok () (t.withRegistry (executed list info queue ⟨t.now, time⟩ t.registry)) := by
    rw [eq_ok_iff_ends]
    unfold submitList
    simp only [ends_bind, ends_get, ends_lift, himmediate, Bool.false_eq_true, if_false,
      ends_discard, ends_onRegistry]
    exact (ends_iff_of_ok hadd).mpr ⟨trivial, rfl⟩
  exact (bind_of_ok henter).trans ((bind_of_ok hsubmit).trans rfl)

theorem Stage.wellFormed_executed (h : Stage device list info calls budget t) :
    (executed list info queue ⟨t.now, time⟩ t.registry).WellFormed := by
  have hold : ∀ c ∈ info.commands, c.appendTime ≤ (⟨t.now, time⟩ : SubmitAnchor).hostTime := by
    intro c hc
    obtain ⟨slot, hslot⟩ := Array.mem_iff_getElem?.mp hc
    exact (h.fits slot c hslot).appended
  exact Registry.wellFormed_calledTo h.holds.wellFormed h.holds.found h.deferred hold

/-! ## Completion -/

structure Finishes (p : Profile) (g : Glimpse) (f : Finished) : Prop where
  glimpse : f.glimpse = g
  admitted : p.Admits f

/-- **What finishes** for a call whose event has completed behind its submission. -/
theorem finishes_of_completed {call : Call} {c : Command} {timestamp : KernelTimestamp}
    (hc : t.registry.command call.command = .ok c)
    (hdone : t.driver.Completed c.event timestamp) (hfrequency : c.frequency = timerFrequency)
    (hlate : call.anchor.deviceTime < timestamp.start) (hle : timestamp.start ≤ timestamp.stop)
    (hfits : call.anchor.hostTime.toNat + timestamp.stop.toNat < UInt64.size)
    (hnamed : c.props.name.isEmpty = false)
    (hmapped : ∃ owner, t.profile.devices.slices c.device = .ok owner)
    (horder : c.appendTime ≤ call.anchor.hostTime) :
    ∃ f, t.finished? call = some f ∧ Finishes t.profile
      ⟨callText c.kernelId call.callId, c.props, timestamp.stop.toNat - timestamp.start.toNat⟩ f := by
  obtain ⟨window, hwindow⟩ := onHost_timer hlate hle hfits
  have hplaced : timestamp.onHost c.frequency call.anchor = .ok window := by
    rw [hfrequency, hwindow]
  let f : Finished := ⟨call, c, timestamp, window, hplaced⟩
  have hduration : f.duration.toNat = timestamp.stop.toNat - timestamp.start.toNat := by
    have hran : kernelDuration timestamp.start timestamp.stop c.frequency = .ok f.duration :=
      f.kernelDuration_eq
    rw [hfrequency, kernelDuration_timer hle] at hran
    rw [← Except.ok.inj hran, UInt64.toNat_sub_of_le _ _ hle]
  have hdevice : timestamp.onDevice c.frequency = .ok (timestamp.start, timestamp.stop) := by
    rw [hfrequency]
    exact onDevice_timer hle
  refine ⟨f, (finished?_of_completed hc hdone).trans (Finished.of?_eq_some hplaced), ?_,
    Profile.admits_of hnamed hmapped ⟨_, hdevice⟩ horder⟩
  show Glimpse.mk (callText c.kernelId call.callId) c.props f.duration.toNat = _
  rw [hduration]

def glimpseAt (submission slot : Nat) (props : Props) : Glimpse :=
  ⟨callText (slot + 1) (submission + 1), props, ticksAt submission slot⟩

theorem Stage.events_alive (h : Stage device list info calls budget t) :
    (info.commands.toList.map (·.event)).Nodup ∧
      ∀ event ∈ info.commands.toList.map (·.event), t.driver.isAlive event = true := by
  have howned : ∀ c ∈ info.commands.toList, c.signal.isOwned = true := by
    intro c hc
    obtain ⟨slot, hslot⟩ := Array.mem_iff_getElem?.mp (Array.mem_toList_iff.mp hc)
    exact (h.fits slot c hslot).owned
  have hevents : info.owned.map Prod.snd = info.commands.toList.map (·.event) := snd_ownedOf howned
  rw [← hevents]
  refine ⟨h.holds.custody_single.driver.events_nodup, fun event hevent => ?_⟩
  obtain ⟨o, ho, rfl⟩ := List.mem_map.mp hevent
  exact h.holds.custody_single.driver.event_alive ho

theorem Stage.finished_slot (h : Stage device list info calls budget t)
    (hregistry : t'.registry = executed list info queue ⟨t.now, time⟩ t.registry)
    (hprofile : t'.profile = t.profile)
    (hran : Ran calls 0 (info.commands.toList.map (·.event)) time stop t'.driver)
    (hfits : t.now.toNat + stop.toNat < UInt64.size) {slot : Nat} {c : Command}
    (hc : info.commands[slot]? = some c) :
    ∃ f, t'.finished? ⟨⟨list, info.epoch, slot⟩, queue, ⟨t.now, time⟩, c.callCount + 1⟩ = some f ∧
      Finishes t'.profile (glimpseAt calls slot c.props) f := by
  have hfit := h.fits slot c hc
  have hlt := (Array.getElem?_eq_some_iff.mp hc).1
  have hevent : (info.commands.toList.map (·.event))[slot]? = some c.event := by
    rw [List.getElem?_map, Array.getElem?_toList, hc]
    rfl
  obtain ⟨timestamp, hdone, hlate, hticks, hbefore⟩ := hran slot c.event hevent
  rw [Nat.zero_add] at hticks
  have hbefore' := UInt64.le_iff_toNat_le.mp hbefore
  let call : Call := ⟨⟨list, info.epoch, slot⟩, queue, ⟨t.now, time⟩, c.callCount + 1⟩
  have hcommand : t'.registry.command call.command =
      .ok { c with callCount := c.callCount + 1 } := by
    have hc' : info.clear.commands[slot]? = some c := hc
    rw [hregistry]
    exact Registry.command_calledTo h.holds.found hc' hlt
  have hdone' : t'.driver.Completed
      (Command.event { c with callCount := c.callCount + 1 }) timestamp := hdone
  have hmapped := h.serves.mapped
  rw [← hprofile, ← hfit.device] at hmapped
  have hle : timestamp.start ≤ timestamp.stop := UInt64.le_iff_toNat_le.mpr (by omega)
  have hnow : t.now.toNat + timestamp.stop.toNat < UInt64.size := by omega
  obtain ⟨f, hf, hglimpse, hadmitted⟩ := finishes_of_completed hcommand hdone' hfit.frequency hlate
    hle hnow hfit.named hmapped hfit.appended
  have hid : call.callId = calls + 1 := congrArg (· + 1) hfit.callCount
  refine ⟨f, hf, hglimpse.trans ?_, hadmitted⟩
  dsimp only
  rw [hfit.kernelId, hid, hticks, Nat.add_sub_cancel_left]
  rfl

/-- All calls of the submission can be finished and are admitted, and what is seen of them is known
in the order of the slots. -/
theorem Stage.signalled (h : Stage device list info calls budget t)
    (hregistry : t'.registry = executed list info queue ⟨t.now, time⟩ t.registry)
    (hprofile : t'.profile = t.profile)
    (hran : Ran calls 0 (info.commands.toList.map (·.event)) time stop t'.driver)
    (hfits : t.now.toNat + stop.toNat < UInt64.size) :
    (∀ call ∈ t'.registry.pending, ∃ f, t'.finished? call = some f) ∧
      (∀ f ∈ t'.signalled, t'.profile.Admits f) ∧
      t'.signalled.map Finished.glimpse =
        (info.commands.toList.map (·.props)).mapIdx (glimpseAt calls) := by
  have hpending : t'.registry.pending =
      info.clear.calls list queue ⟨t.now, time⟩ info.clear.commands.size := by
    rw [hregistry]
    show t.registry.pending ++ _ = _
    rw [h.holds.idle]
    rfl
  have hslots : ∀ (slot : Nat) call, t'.registry.pending[slot]? = some call →
      ∃ f, t'.finished? call = some f ∧
        ∃ c, info.commands[slot]? = some c ∧ Finishes t'.profile (glimpseAt calls slot c.props) f := by
    intro slot call hcall
    rw [hpending, CommandList.calls_getElem?, Option.map_eq_some_iff] at hcall
    obtain ⟨c, hc, rfl⟩ := hcall
    obtain ⟨f, hf, hfinishes⟩ := h.finished_slot hregistry hprofile hran hfits hc
    exact ⟨f, hf, c, hc, hfinishes⟩
  obtain ⟨hlength, hfinished⟩ := getElem?_filterMap_of_forall hslots
  refine ⟨fun call hcall => ?_, fun f hf => ?_, ?_⟩
  · obtain ⟨slot, hslot⟩ := List.mem_iff_getElem?.mp hcall
    obtain ⟨f, hf, -⟩ := hslots slot call hslot
    exact ⟨f, hf⟩
  · obtain ⟨slot, hslot⟩ := List.mem_iff_getElem?.mp hf
    obtain ⟨c, -, hfinishes⟩ := hfinished slot f hslot
    exact hfinishes.admitted
  · apply List.ext_getElem?
    intro slot
    have hprops : ((info.commands.toList.map (·.props)).mapIdx (glimpseAt calls))[slot]? =
        info.commands[slot]?.map fun c => glimpseAt calls slot c.props := by
      rw [List.getElem?_mapIdx, List.getElem?_map, Array.getElem?_toList, Option.map_map]
      rfl
    rw [List.getElem?_map, hprops]
    have hsize : t'.signalled.length = info.commands.size := by
      refine hlength.trans ?_
      rw [hpending]
      simp [CommandList.calls, CommandList.clear]
    cases hf : t'.signalled[slot]? with
    | none =>
      have hle := List.getElem?_eq_none_iff.mp hf
      rw [hsize] at hle
      rw [Array.getElem?_eq_none hle]
      rfl
    | some f =>
      obtain ⟨c, hc, hfinishes⟩ := hfinished slot f hf
      rw [hc]
      exact congrArg some hfinishes.glimpse

/-! ## The whole submission -/

def calledOnce (info : CommandList) : CommandList :=
  info.clear.called info.commands.size

theorem size_calledOnce (info : CommandList) :
    (calledOnce info).commands.size = info.commands.size := by
  simp [calledOnce, CommandList.called, CommandList.clear]

theorem map_calledOnce {α : Type} (f : Command → α)
    (hf : ∀ c n, f { c with callCount := n } = f c) (info : CommandList) :
    (calledOnce info).commands.toList.map f = info.commands.toList.map f :=
  CommandList.map_called f hf info.clear _

/-- What is left of a submission when its calls are taken in: a stage with the list called once
more. The timer of the device was set, and the events were reset. -/
theorem Stage.called (h : Stage device list info calls budget t) {d : Driver} {budget' : Nat}
    (hregistry : t'.registry =
      { executed list info queue ⟨t.now, time⟩ t.registry with pending := [] })
    (hsignals : t.driver.Reports d)
    (hresets : Driver.Reports
      { d with devices := d.devices.modify device fun s => { s with time := stop } } t'.driver)
    (hnow : t'.now = t.now) (henabled : t'.collector.enabled = t.collector.enabled)
    (hdevices : t'.profile.devices = t.profile.devices)
    (hwarnings : t'.journal.warnings = t.journal.warnings) (hbudget : budget ≤ budget')
    (hstop : stop.toNat ≤ budget') (htimed : t'.profile.timed ≤ budget')
    (hcounted : t'.profile.counted ≤ budget') :
    Stage device list (calledOnce info) (calls + 1) budget' t' := by
  have hlists : t'.registry.lists =
      t.registry.lists.modify list fun _ => calledOnce info := by
    rw [hregistry]
    rfl
  have hserves : Serves device budget' t' := by
    obtain ⟨time', htimer, -⟩ := h.serves.timer
    have hset : t'.driver.devices.get? device = some ⟨timerFrequency, stop, [], true⟩ := by
      rw [hresets.devices, hsignals.devices, Table.get?_modify, if_pos rfl, htimer]
      rfl
    have hmask := hresets.timestampMask.trans hsignals.timestampMask
    have hpool := hresets.failPool.trans hsignals.failPool
    have hevent := hresets.failEvent.trans hsignals.failEvent
    exact ⟨⟨stop, hset, hstop⟩, hmask.trans h.serves.unmasked,
      ⟨hpool.trans h.serves.makes.pool, hevent.trans h.serves.makes.event⟩,
      henabled.trans h.serves.enabled, hdevices ▸ h.serves.mapped,
      hnow ▸ Nat.le_trans h.serves.clock hbudget, htimed, hcounted⟩
  have hholds : t'.Holds [(list, calledOnce info)] := by
    have hwf : t'.registry.WellFormed := by
      rw [hregistry]
      exact h.wellFormed_executed.settle (List.nil_sublist _)
    refine h.holds.changed (by rw [hregistry]) hwf hlists ?_
    have howned : (calledOnce info).owned = info.owned := CommandList.owned_called info.clear _
    have hset : Driver.Custody True
        { d with devices := d.devices.modify device fun s => { s with time := stop } } [] []
        (info.owned ++ ownedBy []) :=
      (h.holds.custody.driver.reports hsignals).same (Nat.le_refl _) rfl rfl
    rw [howned]
    exact h.holds.custody.moved (hset.reports hresets) hwarnings
  refine ⟨hserves, hholds, h.deferred, h.device_eq, fun slot c hc => ?_, ?_, ?_⟩
  · have hc' : (info.clear.called info.clear.commands.size).commands[slot]? = some c := hc
    rw [CommandList.called_getElem?, Option.map_eq_some_iff] at hc'
    obtain ⟨c₀, hc₀, rfl⟩ := hc'
    have hfit := h.fits slot c₀ hc₀
    exact ⟨hfit.kernelId, hfit.device, hfit.frequency, congrArg (· + 1) hfit.callCount,
      hnow ▸ hfit.appended, hfit.named, hfit.owned⟩
  · have hnext : t'.registry.nextKernelId = t.registry.nextKernelId := by
      rw [hregistry]
      rfl
    rw [hnext, h.nextKernelId, size_calledOnce]
  · rw [hresets.lastHandle]
    exact hsignals.lastHandle ▸ h.given

theorem sum_glimpseAt_le {props : List Props} (hcalls : calls < 2)
    (hmax : props.length ≤ 100000002) :
    ((props.mapIdx (glimpseAt calls)).map (·.duration)).sum ≤ longest * props.length := by
  have heach : ∀ d ∈ (props.mapIdx (glimpseAt calls)).map (·.duration), d ≤ longest := by
    intro d hd
    obtain ⟨g, hg, rfl⟩ := List.mem_map.mp hd
    obtain ⟨slot, hslot, rfl⟩ := List.mem_mapIdx.mp hg
    have hlt : 20 + ticksAt calls slot < longest :=
      ticksAt_lt (Nat.lt_of_lt_of_le hslot hmax) hcalls
    exact Nat.le_of_lt (Nat.lt_of_le_of_lt (Nat.le_add_left _ _) hlt)
  have hsum := List.sum_le_card_nsmul _ _ heach
  rw [List.length_map, List.length_mapIdx] at hsum
  exact Nat.mul_comm longest _ ▸ hsum

/-- **The sweep over an execution** whose events have completed takes in one call of each command,
in the order of the slots. -/
theorem Stage.sweeps (h : Stage device list info calls budget t)
    (hregistry : t'.registry = executed list info queue ⟨t.now, time⟩ t.registry)
    (hprofile : t'.profile = t.profile)
    (hran : Ran calls 0 (info.commands.toList.map (·.event)) time stop t'.driver)
    (hcalls : calls < 2) (hmax : info.commands.size ≤ 100000002)
    (hstop : stop.toNat ≤ budget + longest * info.commands.size)
    (hfits : 2 * (budget + longest * info.commands.size) < UInt64.size) :
    Ends processCalls t'
      (fun _ t'' => ∃ fs, CallsAdded t' fs t'' ∧
        fs.map Finished.glimpse = (info.commands.toList.map (·.props)).mapIdx (glimpseAt calls) ∧
        t''.profile.timed ≤ budget + longest * info.commands.size ∧
        t''.profile.counted ≤ budget + longest * info.commands.size)
      (fun _ _ => False) := by
  have hlonger : info.commands.size ≤ longest * info.commands.size :=
    Nat.le_mul_of_pos_left _ (by decide)
  have htimed := h.serves.timed
  have hcounted := h.serves.counted
  have hclock := h.serves.clock
  obtain ⟨hready, hadmits, hglimpses⟩ := h.signalled hregistry hprofile hran (by omega)
  have hnumber : t'.signalled.length = info.commands.size := by
    have hlength := congrArg List.length hglimpses
    simpa using hlength
  have hsum : (t'.signalled.map (·.duration.toNat)).sum ≤ longest * info.commands.size := by
    have hdurations := congrArg (List.map (·.duration)) hglimpses
    rw [List.map_map] at hdurations
    have hmax' : (info.commands.toList.map (·.props)).length ≤ 100000002 := by simpa
    have hle := sum_glimpseAt_le hcalls hmax'
    rw [← hdurations, List.length_map, Array.length_toList] at hle
    exact hle
  obtain ⟨p, hadds⟩ := Profile.AddsAll.of_fits hadmits (by rw [hprofile]; omega)
    (by rw [hprofile]; omega)
  refine (processCalls_adds (hregistry ▸ h.wellFormed_executed) hready hadds).imp_ok ?_
  intro _ t'' hadded
  have htimed' := hadded.added.adds.timed
  have hcounted' := hadded.added.adds.counted
  rw [hprofile] at htimed' hcounted'
  exact ⟨t'.signalled, hadded, hglimpses, by omega, by omega⟩

/-- **One submission** takes in one call of each command, in the order of the slots, and goes to a
stage with each command called once more. -/
theorem Stage.submit (h : Stage device list info calls budget t) {submission : UInt64}
    (hsub : submission.toNat = calls) (hcalls : calls < 2)
    (hmax : info.commands.size ≤ 100000002)
    (hfits : 2 * (budget + 1500 + longest * info.commands.size) < UInt64.size) :
    Ends (Workload.submit device queue list (info.commands.toList.map (·.event)) submission) t
      (fun _ t' => ∃ fs,
        Stage device list (calledOnce info) (calls + 1)
          (budget + 1500 + longest * info.commands.size) t' ∧ Added t fs t' ∧
        fs.map Finished.glimpse = (info.commands.toList.map (·.props)).mapIdx (glimpseAt calls))
      (fun _ _ => False) := by
  subst hsub
  have h500 : (500 : UInt64).toNat = 500 := rfl
  have hlength : (info.commands.toList.map (·.event)).length = info.commands.size := by simp
  have hadvanced := (Spares.advance t 1000).added
  have h₁ : Stage device list info submission.toNat (budget + 1000)
    { t with now := t.now + 1000 } := h.advance 1000 (by show budget + 1000 < _; omega)
  unfold Workload.submit advanceClock exitQueueSynchronize
  simp only [ends_bind, ends_modify, ends_get, ends_lift, ends_discard]
  generalize { t with now := t.now + 1000 } = t₁ at h₁ hadvanced ⊢
  -- The list is executed.
  obtain ⟨time, htimer, htime⟩ := h₁.serves.timer
  obtain ⟨hnodup, halive⟩ := h₁.events_alive
  rw [ends_iff_of_ok (h₁.execute htimer)]
  generalize hr : executed list info queue ⟨t₁.now, time⟩ t₁.registry = r
  have htimestamp : (t₁.withRegistry r).driver.deviceTimestamp device = .ok time :=
    deviceTimestamp_of_timer htimer
  simp only [htimestamp]
  -- Its events complete.
  obtain ⟨last, _, hsignalAll, d, rfl, hsignals, -, -, hlast, hran⟩ :=
    (signalAll_ends hcalls _ 0 time (t := t₁.withRegistry r) hnodup halive (by omega)
      (by rw [hlength]; omega)).exists_ok
  have hsignals₁ : t₁.driver.Reports d := hsignals
  rw [hlength] at hlast
  have hlast' : last.toNat ≤ budget + 1000 + longest * info.commands.size := by omega
  obtain ⟨stop, hadd, hstop⟩ := Checked.add_of_fits (a := last) (b := 500) (by omega)
  have hset := Driver.setDeviceTime_eq_ok (hsignals₁.devices ▸ htimer) stop
  rw [ends_iff_of_ok hsignalAll]
  simp only [hadd, ends_updateDriver, hset]
  -- The calls are taken in, and the events are reset.
  subst hr
  let t₂ := { t₁.withRegistry (executed list info queue ⟨t₁.now, time⟩ t₁.registry) with
    driver := { d with devices := d.devices.modify device fun s => { s with time := stop } } }
  have hregistry₂ : t₂.registry = executed list info queue ⟨t₁.now, time⟩ t₁.registry := rfl
  have hran₂ : Ran submission.toNat 0 (info.commands.toList.map (·.event)) time last t₂.driver := hran
  obtain ⟨_, _, hsweep, fs, ⟨⟨p, notices, rfl⟩, hadded⟩, hglimpses, htimed, hcounted⟩ :=
    (h₁.sweeps hregistry₂ rfl hran₂ hcalls hmax hlast' (by omega)).exists_ok
  have hstop' : stop.toNat ≤ budget + 1500 + longest * info.commands.size := by omega
  rw [ends_iff_of_ok hsweep]
  refine ⟨fs, h₁.called rfl hsignals₁ (Driver.hostReset_reports _) rfl rfl hadded.adds.settings.1 rfl
    (by omega) hstop' (Nat.le_trans htimed (by omega)) (Nat.le_trans hcounted (by omega)), ?_,
    hglimpses⟩
  exact hadvanced.trans ⟨hadded.adds, hadded.notifies, hadded.told⟩

end Workload

end GpuTrace
