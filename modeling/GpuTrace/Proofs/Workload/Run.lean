import GpuTrace.Proofs.Workload.Fill

/-!
# Runs of the workload — every size ends, and is seen call by call

From any state in which the collector holds nothing and the driver answers, the workload is prepared
(`prepared_ends`), goes over its stages, and ends with nothing left behind. What is seen of it are
two submissions of all operations and the fill (`run_ends`).
-/

namespace GpuTrace.Workload

open Fallible Tracing

variable {device : DeviceHandle} {budget : Nat} {t : Tracing}

/-! ## Preparation -/

def kernelsFrom (t : Tracing) : Kernels :=
  ⟨⟨t.driver.lastHandle + 3⟩, ⟨t.driver.lastHandle + 4⟩⟩

def listFrom (t : Tracing) : CommandListHandle :=
  ⟨t.driver.lastHandle + 5⟩

def prepared (device : DeviceHandle) (t : Tracing) : Tracing :=
  { t with driver := { t.driver with
      lastHandle := t.driver.lastHandle + 5
      devices := t.driver.devices.modify device fun s => { s with time := 1000 }
      kernels := (t.driver.kernels.insert (kernelsFrom t).even ⟨"gemm", 32⟩).insert
        (kernelsFrom t).odd ⟨"reduce", 16⟩ } }.withRegistry
    ((t.registry.setGroupSize (kernelsFrom t).even ⟨64, 1, 1⟩).setGroupSize
      (kernelsFrom t).odd ⟨256, 1, 1⟩)

theorem ends_prepare {rest : ContextHandle → QueueHandle → KernelHandle → KernelHandle →
      CommandListHandle → Fallible Tracing Unit} {Q : Unit → Tracing → Prop}
    {E : Fault → Tracing → Prop} {state : DeviceState}
    (htimer : t.driver.devices.get? device = some state) :
    Ends (do
        let context : ContextHandle ← onDriver (·.fresh)
        let queue : QueueHandle ← onDriver (·.fresh)
        updateDriver (·.setDeviceTime device 1000)
        let gemm ← onDriver (·.addKernel "gemm" 32)
        let reduce ← onDriver (·.addKernel "reduce" 16)
        exitKernelSetGroupSize gemm ⟨64, 1, 1⟩ (.ok ())
        exitKernelSetGroupSize reduce ⟨256, 1, 1⟩ (.ok ())
        let list : CommandListHandle ← onDriver (·.fresh)
        rest context queue gemm reduce list) t Q E ↔
      Ends (rest ⟨t.driver.lastHandle + 1⟩ ⟨t.driver.lastHandle + 2⟩ (kernelsFrom t).even
        (kernelsFrom t).odd (listFrom t)) (prepared device t) Q E := by
  have hset := Driver.setDeviceTime_eq_ok (d := { t.driver with
    lastHandle := t.driver.lastHandle + 1 + 1 }) htimer 1000
  unfold exitKernelSetGroupSize
  simp only [ends_bind, ends_onDriver, ends_updateDriver, Driver.fresh, hset, Driver.addKernel,
    ends_onRegistry, ends_modify]
  rfl

theorem Serves.prepared (h : Serves device budget t) (hbudget : 1000 ≤ budget) :
    Serves device budget (prepared device t) := by
  obtain ⟨time, htimer, -⟩ := h.timer
  have hset : (t.driver.devices.modify device fun s => { s with time := 1000 }).get? device =
      some ⟨timerFrequency, 1000, [], true⟩ := by
    rw [Table.get?_modify, if_pos rfl, htimer]
    rfl
  exact { h with timer := ⟨1000, hset, hbudget⟩, makes := ⟨h.makes.pool, h.makes.event⟩ }

theorem knows_prepared (device : DeviceHandle) (t : Tracing) :
    Knows (kernelsFrom t) (prepared device t) := by
  have hne : (kernelsFrom t).even ≠ (kernelsFrom t).odd := by
    simp [kernelsFrom]
  refine ⟨?_, ?_, ?_, ?_⟩
  · exact (Table.get?_insert ..).trans ((if_neg hne).trans (Table.get?_insert_self ..))
  · exact Table.get?_insert_self ..
  · exact (Table.get?_insert ..).trans ((if_neg hne).trans (Table.get?_insert_self ..))
  · exact Table.get?_insert_self ..

theorem stage_prepared (h : Serves device budget t) (hholds : t.Holds [])
    (hfirst : t.registry.nextKernelId = 1) (hbudget : 1000 ≤ budget) (context : ContextHandle) :
    ∃ info t', exitListCreate (listFrom t) context device false (.ok ()) (prepared device t) =
        .ok () t' ∧
      Stage device (listFrom t) info 0 budget t' ∧ info.commands = #[] ∧
      Knows (kernelsFrom t) t' ∧ Added t [] t' := by
  have hholds₁ : (prepared device t).Holds [] := {
    idle := hholds.idle
    wellFormed := ⟨hholds.wellFormed.resolves, hholds.wellFormed.distinct,
      hholds.wellFormed.epoch_lt, hholds.wellFormed.epoch_inj⟩
    registered := hholds.registered
    custody := hholds.custody.moved
      (hholds.custody.driver.same (Nat.le_add_right _ 5) rfl rfl) rfl }
  have habsent : (prepared device t).registry.lists.get? (listFrom t) = none := by
    unfold Table.get?
    rw [hholds₁.registered.eq_nil]
    rfl
  obtain ⟨r, hcreate, hholds₂, hsizes, hnext⟩ := hholds₁.createList habsent context device false
  have hknows := knows_prepared device t
  refine ⟨_, _, hcreate, ⟨{ h.prepared hbudget with }, hholds₂, rfl, rfl, nofun, ?_, ?_⟩, rfl, ?_,
    .of_eq rfl rfl rfl⟩
  · exact hnext.trans hfirst
  · exact Nat.le_refl _
  · exact ⟨hknows.even, hknows.odd, hsizes ▸ hknows.even_size, hsizes ▸ hknows.odd_size⟩

/-! ## The run -/

def glimpses (launches : Nat) : List Glimpse :=
  (operations launches).mapIdx (glimpseAt 0) ++ (operations launches).mapIdx (glimpseAt 1) ++
    [fillGlimpse (launches + 3)]

theorem length_operations (launches : Nat) : (operations launches).length = launches + 2 := by
  simp [operations]

/-- **A run of any size ends**, leaves nothing behind, and is seen as two submissions and the fill. -/
theorem run_ends (h : Serves device budget t) (hholds : t.Holds [])
    (hfirst : t.registry.nextKernelId = 1) (hbudget : 1000 ≤ budget)
    (hfits : budget ≤ 1000000000) {launches : Nat} (hmax : launches ≤ 100000000) :
    Ends (run device launches) t
      (fun _ t' => ∃ fs, t'.Holds [] ∧ Added t fs t' ∧
        fs.map Finished.glimpse = glimpses launches)
      (fun _ _ => False) := by
  have hlongest : longest * (launches + 2) ≤ 400000008000000000 := by
    unfold longest
    omega
  have hword : UInt64.size = 18446744073709551616 := rfl
  have hword' : UInt32.size = 4294967296 := rfl
  obtain ⟨time, htimer, -⟩ := h.timer
  obtain ⟨info, t₁, hcreate, hstage, hempty, hknows, hadded⟩ :=
    stage_prepared h hholds hfirst hbudget ⟨t.driver.lastHandle + 1⟩
  unfold run
  rw [ends_prepare htimer, ends_bind, ends_iff_of_ok hcreate, ends_bind]
  -- All operations are appended.
  refine (hstage.appendAll hempty hknows (by omega) (by omega)).imp_ok ?_
  rintro _ t₂ ⟨info₂, rfl, hprops, hstage₂, hadded₂⟩
  have hsize : info₂.commands.size = launches + 2 := by
    have hlength := congrArg List.length hprops
    rwa [List.length_map, Array.length_toList, length_operations] at hlength
  -- They are submitted twice.
  rw [ends_bind]
  refine (hstage₂.submit rfl (by decide) (by omega) (by rw [hsize]; omega)).imp_ok ?_
  rintro _ t₃ ⟨fs₁, hstage₃, hadded₃, hglimpses₁⟩
  have hsize₃ : (calledOnce info₂).commands.size = launches + 2 := by
    rw [size_calledOnce, hsize]
  have hevents : info₂.commands.toList.map (·.event) =
      (calledOnce info₂).commands.toList.map (·.event) :=
    (map_calledOnce _ (fun _ _ => rfl) info₂).symm
  rw [ends_bind, hevents]
  refine (hstage₃.submit rfl (by decide) (by omega) (by rw [hsize₃, hsize]; omega)).imp_ok ?_
  rintro _ t₄ ⟨fs₂, hstage₄, hadded₄, hglimpses₂⟩
  -- The fill comes last.
  refine (hstage₄.finish _ _ (by rw [hsize₃, hsize]; omega)).imp_ok ?_
  rintro _ t₅ ⟨f, hholds₅, hadded₅, hglimpse⟩
  have hprops₃ := map_calledOnce (·.props) (fun _ _ => rfl) info₂
  rw [hprops] at hglimpses₁ hprops₃
  rw [hprops₃] at hglimpses₂
  rw [size_calledOnce, hsize₃] at hglimpse
  refine ⟨fs₁ ++ fs₂ ++ [f], hholds₅, ?_, ?_⟩
  · exact hadded.trans (hadded₂.trans ((hadded₃.trans hadded₄).trans hadded₅))
  · rw [List.map_append, List.map_append, hglimpses₁, hglimpses₂, List.map_singleton, hglimpse]
    rfl

end GpuTrace.Workload
