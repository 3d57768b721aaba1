import GpuTrace.Proofs.Workload.Submission

/-!
# Fill — the immediate list and the end of the workload

An append to an immediate list is called at once (`append_immediate`), and its event is all that its
completion waits for, so the fill is taken in alone (`fill_ends`).
-/

namespace GpuTrace.Workload

open Fallible Tracing

variable {device : DeviceHandle} {list : CommandListHandle} {info : CommandList}
  {lists : List (CommandListHandle × CommandList)} {calls budget : Nat} {time : UInt64} {t : Tracing}

def fillGlimpse (kernelId : Nat) : Glimpse :=
  ⟨callText kernelId 1, fillProps, 40⟩

def calledAt (t : Tracing) (list : CommandListHandle) (info : CommandList) (props : Props)
    (time : UInt64) : Tracing :=
  { t with driver := t.driver.withEvent }.withRegistry
    (t.registry.withCall list info (t.nextCommand props info.device timerFrequency) ⟨t.now, time⟩)

/-- **An append to an immediate list** is called at once, and answers its event. -/
theorem append_immediate (h : Serves device budget t) (found : t.registry.lists.get? list = some info)
    (immediate : info.immediate = true) (hdevice : info.device = device)
    (htimer : t.driver.devices.get? device = some ⟨timerFrequency, time, [], true⟩)
    {op : Operation} {props : Props} (hprops : t.propsOf op = .ok props) :
    append list op t = .ok (some t.nextEvent.event) (calledAt t list info props time) := by
  subst hdevice
  have hruns : timerFrequency ≠ 0 := by decide
  have henter := enterAppend_makes h.enabled found hprops
    (appendAnchor_of_immediate found immediate (h.anchorOn htimer)) htimer hruns h.makes
  have hexit := exitAppend_calls (t := { t with driver := t.driver.withEvent }) found
    (t.nextCommand props info.device timerFrequency) ⟨t.now, time⟩
  exact (bind_of_ok henter).trans ((bind_of_ok hexit).trans rfl)

theorem calledAt_completes (h : Serves device budget t) (hholds : t.Holds ((list, info) :: lists))
    (hdevice : info.device = device) {props : Props} (hnamed : props.name.isEmpty = false)
    {d : Driver} (hreports : t.driver.withEvent.Reports d) {start stop : UInt64}
    (hdone : d.Completed t.nextEvent.event ⟨start, stop⟩) (hlate : time < start)
    (hle : start ≤ stop) (hfits : budget + stop.toNat + 1 < UInt64.size) :
    Ends (processEvent t.nextEvent.event) { calledAt t list info props time with driver := d }
      (fun _ t' => ∃ f info', t'.Holds ((list, info') :: lists) ∧ Added t [f] t' ∧
        f.glimpse = ⟨callText t.registry.nextKernelId 1, props, stop.toNat - start.toNat⟩)
      (fun _ _ => False) := by
  subst hdevice
  let command := t.nextCommand props info.device timerFrequency
  let call : Call := ⟨⟨list, info.epoch, info.commands.size⟩, list.asQueue, ⟨t.now, time⟩, 1⟩
  let t₁ : Tracing := { calledAt t list info props time with driver := d }
  have hclock := h.clock
  have htimed := h.timed
  have hcounted := h.counted
  have hwf : t₁.registry.WellFormed :=
    Registry.wellFormed_withCall hholds.wellFormed hholds.found command ⟨t.now, time⟩
  have hpending : t₁.registry.pending = [call] := by
    show t.registry.pending ++ _ = _
    rw [hholds.idle]
    rfl
  have hcommand : t₁.registry.command call.command =
      .ok { command.numbered t.registry.nextKernelId with callCount := 1 } :=
    Registry.command_withCall hholds.found command ⟨t.now, time⟩
  have hwaits : t₁.registry.waitsFor t.nextEvent.event call = true :=
    Registry.waitsFor_eq_true.mpr ⟨_, hcommand, rfl⟩
  have hnow : call.anchor.hostTime.toNat + stop.toNat < UInt64.size := by
    show t.now.toNat + _ < _
    omega
  obtain ⟨f, hf, hglimpse, hadmitted⟩ := finishes_of_completed (t := t₁) hcommand hdone rfl hlate hle
    hnow hnamed h.mapped (UInt64.le_refl _)
  have hduration : f.duration.toNat = stop.toNat - start.toNat :=
    congrArg Glimpse.duration hglimpse
  have hprofile : t₁.profile = t.profile := rfl
  obtain ⟨p, hadds⟩ := Profile.Adds.of_fits hadmitted (by rw [hprofile]; omega)
    (by rw [hprofile]; omega)
  refine (processEvent_adds hwf hpending hwaits hf hadds).imp_ok ?_
  rintro _ _ ⟨⟨p', notices, rfl⟩, hadded⟩
  refine ⟨f, (info.append (command.numbered t.registry.nextKernelId)).call info.commands.size 1,
    hholds.changed rfl (hwf.settle (List.nil_sublist _)) rfl ?_,
    ⟨hadded.adds, hadded.notifies, hadded.told⟩, hglimpse⟩
  have hmade := (hholds.custody.driver.withEvent h.makes).reports hreports
  rw [CommandList.owned_call, CommandList.owned_append, List.append_assoc]
  exact hholds.custody.moved (hmade.perm List.perm_middle.symm) rfl

theorem fill_ends (h : Serves device budget t) (hholds : t.Holds ((list, info) :: lists))
    (immediate : info.immediate = true) (hdevice : info.device = device)
    (hfits : 2 * (budget + 200) < UInt64.size) :
    Ends (fill device list) t
      (fun _ t' => ∃ f info', t'.Holds ((list, info') :: lists) ∧ Added t [f] t' ∧
        f.glimpse = fillGlimpse t.registry.nextKernelId)
      (fun _ _ => False) := by
  have hadvanced := (Spares.advance t 100).added
  have h₁ : Serves device (budget + 100) { t with now := t.now + 100 } :=
    h.advance 100 (by show budget + 100 < _; omega)
  have hholds₁ := hholds.advance (t.now + 100)
  have hnext := congrArg Registry.nextKernelId (registry_advance t 100)
  unfold fill advanceClock exitEventHostSynchronize
  simp only [ends_bind, ends_modify]
  rw [← hnext]
  generalize { t with now := t.now + 100 } = t₁ at h₁ hholds₁ hadvanced ⊢
  -- The fill is appended and called.
  obtain ⟨time, htimer, htime⟩ := h₁.timer
  have hprops : t₁.propsOf (.memoryFill 4096) = .ok fillProps := rfl
  have happend := append_immediate h₁ hholds₁.found immediate hdevice htimer hprops
  rw [ends_iff_of_ok happend]
  have hmade := hholds₁.custody.driver.withEvent h₁.makes
  -- Its event completes.
  have h5 : (5 : UInt64).toNat = 5 := rfl
  have h45 : (45 : UInt64).toNat = 45 := rfl
  obtain ⟨start, hadd, hstart⟩ := Checked.add_of_fits (a := time) (b := 5) (by omega)
  obtain ⟨stop, hadd', hstop⟩ := Checked.add_of_fits (a := time) (b := 45) (by omega)
  have halive : (calledAt t₁ list info fillProps time).driver.isAlive t₁.nextEvent.event = true :=
    hmade.event_alive List.mem_cons_self
  obtain ⟨d, hd⟩ := Driver.signal_eq_ok halive ⟨start, stop⟩
  have hdone := Driver.signal_completes halive hd
  have htimestamp : (calledAt t₁ list info fillProps time).driver.deviceTimestamp device =
      .ok time := deviceTimestamp_of_timer htimer
  simp only [ends_bind, ends_get, ends_lift, htimestamp, hadd, hadd', ends_updateDriver, hd,
    ends_discard]
  have hlate : time < start := UInt64.lt_iff_toNat_lt.mpr (by omega)
  have hle : start ≤ stop := UInt64.le_iff_toNat_le.mpr (by omega)
  refine (calledAt_completes h₁ hholds₁ hdevice (by decide) (Driver.signal_reports hd) hdone hlate hle
    (by omega)).imp_ok ?_
  rintro _ t' ⟨f, info', hholds', hadded, hglimpse⟩
  have hticks : stop.toNat - start.toNat = 40 := by omega
  rw [hticks] at hglimpse
  exact ⟨f, info', hholds', hadvanced.trans hadded, hglimpse⟩

/-- **The end of the workload** takes in the fill, and leaves nothing behind. -/
theorem Stage.finish (h : Stage device list info calls budget t) (context : ContextHandle)
    (queue : QueueHandle) (hfits : 2 * (budget + 200) < UInt64.size) :
    Ends (do
        let immediate : CommandListHandle ← onDriver (·.fresh)
        exitListCreate immediate context device true (.ok ())
        fill device immediate
        exitListDestroy immediate (.ok ())
        exitListDestroy list (.ok ())
        exitQueueDestroy queue (.ok ())) t
      (fun _ t' => ∃ f, t'.Holds [] ∧ Added t [f] t' ∧
        f.glimpse = fillGlimpse (info.commands.size + 1))
      (fun _ _ => False) := by
  let immediate : CommandListHandle := ⟨t.driver.lastHandle + 1⟩
  let t₁ : Tracing := { t with driver := { t.driver with lastHandle := t.driver.lastHandle + 1 } }
  have hholds₁ : t₁.Holds [(list, info)] := h.holds.fresh
  have hserves₁ : Serves device budget t₁ :=
    { h.serves with makes := ⟨h.serves.makes.pool, h.serves.makes.event⟩ }
  have habsent : t₁.registry.lists.get? immediate = none := by
    have hne : list ≠ immediate := by
      rintro rfl
      exact Nat.not_succ_le_self _ h.given
    unfold Table.get?
    rw [List.perm_singleton.mp hholds₁.registered]
    exact if_neg hne
  obtain ⟨r, hcreate, hholds₂, -, hnext⟩ := hholds₁.createList habsent context device true
  have hserves₂ : Serves device budget (t₁.withRegistry r) := { hserves₁ with }
  rw [ends_bind, ends_onDriver]
  show Ends (exitListCreate immediate context device true (.ok ()) >>= _) t₁ _ _
  rw [ends_bind, ends_iff_of_ok hcreate, ends_bind]
  refine (fill_ends hserves₂ hholds₂ rfl rfl hfits).imp_ok ?_
  rintro _ t₃ ⟨f, info', hholds₃, hadded₃, hglimpse⟩
  rw [ends_bind]
  refine hholds₃.destroyList.imp_ok ?_
  rintro _ t₄ ⟨hholds₄, hadded₄⟩
  rw [ends_bind]
  refine hholds₄.destroyList.imp_ok ?_
  rintro _ t₅ ⟨hholds₅, hadded₅⟩
  unfold exitQueueDestroy
  rw [ends_discard, ends_iff_of_ok (processCalls_idle hholds₅.idle)]
  have hcreated : Added t [] (t₁.withRegistry r) := .of_eq rfl rfl rfl
  refine ⟨f, hholds₅, hcreated.trans (hadded₃.trans (hadded₄.trans hadded₅)), hglimpse.trans ?_⟩
  exact congrArg fillGlimpse (hnext.trans h.nextKernelId)

end GpuTrace.Workload
