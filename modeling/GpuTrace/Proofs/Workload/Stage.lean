import GpuTrace.Program.Workload
import GpuTrace.Proofs.Collector.Append
import GpuTrace.Proofs.Collector.Holding

/-!
# Stages — a deferred list between its appends and executions

Between two lines of the workload the collector is on a `Stage`: the driver and the collector are
up (`Serves`), the collector holds just one deferred list, and each command `Fits` its slot. No clock, timer, total or count is above a
budget, from which later lines take what they need.

Each append goes from a stage to the next one with one more command (`Stage.append`), so all of them
together fill the list with the `operations` of the workload (`Stage.appendAll`).
-/

namespace GpuTrace.Workload

open Fallible Tracing

/-! ## Operations -/

def launchProps (launch : Nat) : Props :=
  let count : Dims := ⟨.ofNat (2 + launch), 1, 1⟩
  if launch % 2 = 0 then .kernel "gemm" 32 ⟨64, 1, 1⟩ (some count)
  else .kernel "reduce" 16 ⟨256, 1, 1⟩ (some count)

def copyProps : Props := .transfer "zeCommandListAppendMemoryCopy" 1048576

def barrierProps : Props := .transfer "zeCommandListAppendBarrier" 0

def fillProps : Props := .transfer "zeCommandListAppendMemoryFill" 4096

def operations (launches : Nat) : List Props :=
  (List.range launches).map launchProps ++ [copyProps, barrierProps]

/-! ## Stages -/

variable {device : DeviceHandle} {list : CommandListHandle} {info : CommandList}
  {kernels : Kernels} {calls budget budget' : Nat} {t t' t'' : Tracing}

/-- The driver and the collector answer, and no number is above the budget. -/
structure Serves (device : DeviceHandle) (budget : Nat) (t : Tracing) : Prop where
  timer : ∃ time : UInt64,
    t.driver.devices.get? device = some ⟨timerFrequency, time, [], true⟩ ∧ time.toNat ≤ budget
  unmasked : t.driver.timestampMask = 0xFFFFFFFFFFFFFFFF
  makes : t.driver.MakesEvents
  enabled : t.collector.enabled = true
  mapped : ∃ owner, t.profile.devices.slices device = .ok owner
  clock : t.now.toNat ≤ budget
  timed : t.profile.timed ≤ budget
  counted : t.profile.counted ≤ budget

structure Fits (device : DeviceHandle) (calls : Nat) (now : UInt64) (slot : Nat) (c : Command) :
    Prop where
  kernelId : c.kernelId = slot + 1
  device : c.device = device
  frequency : c.frequency = timerFrequency
  callCount : c.callCount = calls
  appended : c.appendTime ≤ now
  named : c.props.name.isEmpty = false
  owned : c.signal.isOwned = true

/-- The deferred list of the workload, each command called so many times. -/
structure Stage (device : DeviceHandle) (list : CommandListHandle) (info : CommandList)
    (calls budget : Nat) (t : Tracing) : Prop where
  serves : Serves device budget t
  holds : t.Holds [(list, info)]
  deferred : info.immediate = false
  device_eq : info.device = device
  fits : ∀ slot c, info.commands[slot]? = some c → Fits device calls t.now slot c
  nextKernelId : t.registry.nextKernelId = info.commands.size + 1
  given : list.raw ≤ t.driver.lastHandle

theorem Serves.mono (h : Serves device budget t) (hle : budget ≤ budget') :
    Serves device budget' t := by
  obtain ⟨time, htimer, htime⟩ := h.timer
  exact { h with
    timer := ⟨time, htimer, Nat.le_trans htime hle⟩
    clock := Nat.le_trans h.clock hle
    timed := Nat.le_trans h.timed hle
    counted := Nat.le_trans h.counted hle }

theorem Stage.mono (h : Stage device list info calls budget t) (hle : budget ≤ budget') :
    Stage device list info calls budget' t :=
  { h with serves := h.serves.mono hle }

theorem toNat_now_add {delta : UInt64} (h : t.now.toNat + delta.toNat < UInt64.size) :
    (t.now + delta).toNat = t.now.toNat + delta.toNat := by
  rw [UInt64.toNat_add, Nat.mod_eq_of_lt h]

theorem registry_advance (t : Tracing) (delta : UInt64) :
    Tracing.registry { t with now := t.now + delta } = t.registry := rfl

theorem Serves.advance (h : Serves device budget t) (delta : UInt64)
    (hfits : budget + delta.toNat < UInt64.size) :
    Serves device (budget + delta.toNat) { t with now := t.now + delta } := by
  have hclock := h.clock
  have hserves := h.mono (Nat.le_add_right budget delta.toNat)
  refine { hserves with clock := ?_ }
  show (t.now + delta).toNat ≤ _
  rw [toNat_now_add (by omega)]
  omega

theorem Stage.advance (h : Stage device list info calls budget t) (delta : UInt64)
    (hfits : budget + delta.toNat < UInt64.size) :
    Stage device list info calls (budget + delta.toNat) { t with now := t.now + delta } := by
  have hclock := h.serves.clock
  refine { h with
    serves := h.serves.advance delta hfits
    holds := h.holds.advance _
    fits := fun slot c hc => ?_ }
  have hc := h.fits slot c hc
  refine { hc with appended := UInt64.le_trans hc.appended ?_ }
  show t.now ≤ t.now + delta
  rw [UInt64.le_iff_toNat_le, toNat_now_add (by omega)]
  omega

/-! ## Appending -/

structure Knows (kernels : Kernels) (t : Tracing) : Prop where
  even : t.driver.kernels.get? kernels.even = some ⟨"gemm", 32⟩
  odd : t.driver.kernels.get? kernels.odd = some ⟨"reduce", 16⟩
  even_size : t.registry.groupSizes.get? kernels.even = some ⟨64, 1, 1⟩
  odd_size : t.registry.groupSizes.get? kernels.odd = some ⟨256, 1, 1⟩

/-- Nothing was completed, and the kernels are as before. -/
structure Spares (t t' : Tracing) : Prop where
  kernels : t'.driver.kernels = t.driver.kernels
  groupSizes : t'.registry.groupSizes = t.registry.groupSizes
  added : Added t [] t'

theorem Spares.trans (h : Spares t t') (h' : Spares t' t'') : Spares t t'' where
  kernels := h'.kernels.trans h.kernels
  groupSizes := h'.groupSizes.trans h.groupSizes
  added := h.added.trans h'.added

theorem Spares.knows (h : Spares t t') (hknows : Knows kernels t) : Knows kernels t' where
  even := h.kernels ▸ hknows.even
  odd := h.kernels ▸ hknows.odd
  even_size := h.groupSizes ▸ hknows.even_size
  odd_size := h.groupSizes ▸ hknows.odd_size

theorem Spares.advance (t : Tracing) (delta : UInt64) :
    Spares t { t with now := t.now + delta } :=
  ⟨rfl, rfl, .of_eq rfl rfl rfl⟩

theorem propsOf_launch (h : Knows kernels t) (launch : Nat) :
    t.propsOf (.launchKernel (if launch % 2 = 0 then kernels.even else kernels.odd)
      (some ⟨.ofNat (2 + launch), 1, 1⟩)) = .ok (launchProps launch) := by
  unfold propsOf Operation.subject Driver.kernel Registry.groupSize launchProps
  by_cases heven : launch % 2 = 0
  · simp only [heven, if_true, h.even, h.even_size]
    rfl
  · simp only [heven, if_false, h.odd, h.odd_size]
    rfl

theorem name_launchProps (launch : Nat) : (launchProps launch).name.isEmpty = false := by
  unfold launchProps
  by_cases heven : launch % 2 = 0
  · simp only [heven, if_true]
    rfl
  · simp only [heven, if_false]
    rfl

theorem Stage.withCommand (h : Stage device list info 0 budget t) {props : Props}
    (hnamed : props.name.isEmpty = false) :
    Stage device list
      (info.append ((t.nextCommand props device timerFrequency).numbered t.registry.nextKernelId))
      0 budget
      ({ t with driver := t.driver.withEvent }.withRegistry
        (t.registry.withCommand list info (t.nextCommand props device timerFrequency))) := by
  have hfound := h.holds.found
  refine ⟨{ h.serves with makes := ⟨h.serves.makes.pool, h.serves.makes.event⟩ }, ?_, h.deferred,
    h.device_eq, ?_, ?_, ?_⟩
  · have hmade : Custody True { t with driver := t.driver.withEvent } [] [] _ :=
      h.holds.custody_single.moved (h.holds.custody_single.driver.withEvent h.serves.makes) rfl
    refine h.holds.changed h.holds.idle (Registry.wellFormed_withCommand h.holds.wellFormed hfound _)
      rfl ?_
    rw [CommandList.owned_append]
    refine (hmade.perm ?_).same rfl rfl
    rw [show ownedBy [] = [] from rfl, List.append_nil]
    exact (List.perm_append_singleton _ _).symm
  · intro slot c hc
    have hc' : (info.commands.push _)[slot]? = some c := hc
    rw [Array.getElem?_push] at hc'
    split at hc'
    · cases hc'
      subst slot
      exact ⟨h.nextKernelId, rfl, rfl, rfl, UInt64.le_refl _, hnamed, rfl⟩
    · exact h.fits slot c hc'
  · show t.registry.nextKernelId + 1 = (info.commands.push _).size + 1
    rw [h.nextKernelId, Array.size_push]
  · exact Nat.le_trans h.given (Nat.le_add_right _ 2)

/-- **One append** goes to a stage with one more command, and answers its event. -/
theorem Stage.append (h : Stage device list info 0 budget t) {op : Operation} {props : Props}
    (hprops : t.propsOf op = .ok props) (hnamed : props.name.isEmpty = false) :
    Ends (Workload.append list op) t
      (fun answer t' => ∃ c info', answer = some c.event ∧ c.props = props ∧
        info'.commands = info.commands.push c ∧ Stage device list info' 0 budget t' ∧ Spares t t')
      (fun _ _ => False) := by
  obtain ⟨time, htimer, -⟩ := h.serves.timer
  have hfound := h.holds.found
  have hruns : timerFrequency ≠ 0 := by decide
  have henter := enterAppend_makes h.serves.enabled hfound hprops
    (appendAnchor_of_deferred hfound h.deferred _) (h.device_eq.symm ▸ htimer) hruns h.serves.makes
  have hexit := exitAppend_registers (t := { t with driver := t.driver.withEvent }) hfound
    (t.nextCommand props device timerFrequency)
  rw [h.device_eq] at henter
  unfold Workload.append
  rw [ends_bind, ends_iff_of_ok henter]
  dsimp only
  rw [ends_bind, ends_iff_of_ok hexit, ends_pure]
  exact ⟨_, _, rfl, rfl, rfl, h.withCommand hnamed, rfl, rfl, .of_eq rfl rfl rfl⟩

theorem Stage.appendLaunch (h : Stage device list info 0 budget t) (hknows : Knows kernels t)
    {launch : Nat} (hcount : 2 + launch < UInt32.size) (hfits : budget + 10 < UInt64.size) :
    Ends (Workload.appendLaunch list kernels launch) t
      (fun answer t' => ∃ c info', answer = some c.event ∧ c.props = launchProps launch ∧
        info'.commands = info.commands.push c ∧ Stage device list info' 0 (budget + 10) t' ∧
        Spares t t')
      (fun _ _ => False) := by
  have hadvanced := Spares.advance t 10
  have hgroups : groupCount launch = .ok ⟨.ofNat (2 + launch), 1, 1⟩ := if_pos hcount
  unfold Workload.appendLaunch advanceClock
  simp only [ends_bind, ends_lift, hgroups, ends_modify]
  refine ((h.advance 10 hfits).append (propsOf_launch (hadvanced.knows hknows) launch)
    (name_launchProps launch)).imp_ok ?_
  rintro _ t' ⟨c, info', rfl, hprops, hcommands, hstage, hspares⟩
  exact ⟨c, info', rfl, hprops, hcommands, hstage, hadvanced.trans hspares⟩

theorem Stage.appendLaunches (h : Stage device list info 0 budget t) (hknows : Knows kernels t)
    (first : Nat) {count : Nat} (hcount : 2 + first + count ≤ UInt32.size)
    (hfits : budget + 10 * count < UInt64.size) :
    Ends ((List.range' first count).mapM (Workload.appendLaunch list kernels)) t
      (fun answers t' => ∃ cs info', answers = cs.map (fun c => some c.event) ∧
        cs.map (·.props) = (List.range' first count).map launchProps ∧
        info'.commands.toList = info.commands.toList ++ cs ∧
        Stage device list info' 0 (budget + 10 * count) t' ∧ Spares t t')
      (fun _ _ => False) := by
  induction count generalizing first info budget t with
  | zero => exact ⟨[], info, rfl, rfl, (List.append_nil _).symm, h, rfl, rfl, .of_eq rfl rfl rfl⟩
  | succ count ih =>
    rw [List.range'_succ, List.mapM_cons, ends_bind]
    refine (h.appendLaunch hknows (by omega) (by omega)).imp_ok ?_
    rintro _ t₁ ⟨c, info₁, rfl, hprops, hcommands, hstage, hspares⟩
    rw [ends_bind]
    refine (ih hstage (hspares.knows hknows) (first + 1) (by omega) (by omega)).imp_ok ?_
    rintro _ t₂ ⟨cs, info₂, rfl, hprops', hcommands', hstage', hspares'⟩
    rw [ends_pure]
    refine ⟨c :: cs, info₂, rfl, ?_, ?_, hstage'.mono (by omega), hspares.trans hspares'⟩
    · rw [List.map_cons, List.map_cons, hprops, hprops']
    · rw [hcommands', hcommands, Array.toList_push, List.append_assoc]
      rfl

/-- **All appends** fill an empty list with the operations of the workload, and answer the events
of its commands. -/
theorem Stage.appendAll (h : Stage device list info 0 budget t) (hempty : info.commands = #[])
    (hknows : Knows kernels t) {launches : Nat} (hcount : 2 + launches ≤ UInt32.size)
    (hfits : budget + 10 * (launches + 1) < UInt64.size) :
    Ends (Workload.appendAll list kernels launches) t
      (fun events t' => ∃ info', events = info'.commands.toList.map (·.event) ∧
        info'.commands.toList.map (·.props) = operations launches ∧
        Stage device list info' 0 (budget + 10 * (launches + 1)) t' ∧ Added t [] t')
      (fun _ _ => False) := by
  unfold Workload.appendAll advanceClock
  rw [ends_bind, List.range_eq_range']
  refine (h.appendLaunches hknows 0 (by omega) (by omega)).imp_ok ?_
  rintro _ t₁ ⟨cs, info₁, rfl, hprops, hcommands, hstage, hspares⟩
  rw [hempty] at hcommands
  have hadvanced := Spares.advance t₁ 10
  have hcopied : propsOf { t₁ with now := t₁.now + 10 } (.memoryCopy 1048576) = .ok copyProps := rfl
  simp only [ends_bind, ends_modify]
  refine ((hstage.advance 10 (by show _ + 10 < _; omega)).append hcopied rfl).imp_ok ?_
  rintro _ t₂ ⟨copy, info₂, rfl, hcopy, hcommands₂, hstage₂, hspares₂⟩
  have hfenced : t₂.propsOf .barrier = .ok barrierProps := rfl
  refine (hstage₂.append hfenced rfl).imp_ok ?_
  rintro _ t₃ ⟨fence, info₃, rfl, hfence, hcommands₃, hstage₃, hspares₃⟩
  have hlist : info₃.commands.toList = cs ++ [copy, fence] := by
    rw [hcommands₃, hcommands₂, Array.toList_push, Array.toList_push, hcommands, List.append_assoc]
    rfl
  refine ⟨info₃, ?_, ?_, hstage₃.mono (by show _ + 10 ≤ _; omega),
    (hspares.trans (hadvanced.trans (hspares₂.trans hspares₃))).added⟩
  · rw [hlist]
    simp [List.filterMap_append, List.filterMap_map]
  · rw [hlist, operations, List.range_eq_range', List.map_append, hprops, ← hcopy, ← hfence]
    rfl

end GpuTrace.Workload
