import GpuTrace.Metrics.Aggregator
import GpuTrace.Proofs.Metrics.Stream

/-!
# Sampling — the sub-devices that an aggregator looks at

An aggregator that was made for a source samples all sub-devices of the source and no others
(`samples_of_lt`, `samples_of_layout`). A sampled sub-device has a schema with both columns, and the
raw listing of it is the whole of its stream (`Samples.rawReports`).

Two sources have the `SameStreams` if they differ only in how the streams are cut into chunks.
-/

namespace GpuTrace.Metrics

open Calculation

/-- The same sub-devices with the same values, however they are cut into chunks. -/
structure Source.SameStreams (s s' : Source) : Prop where
  count : s'.count = s.count
  schema? : ∀ subDevice, s'.schema? subDevice = s.schema? subDevice
  values : ∀ subDevice, (s'.chunks subDevice).flatten = (s.chunks subDevice).flatten

theorem Schema.position?_lt {schema : Schema} {name : String} {column : Nat}
    (h : schema.position? name = some column) : column < schema.size := by
  obtain ⟨hlt, -⟩ := List.idxOf?_eq_some_iff.mp h
  simpa [Schema.names, Schema.size] using hlt

namespace Aggregator

variable {source source' : Source} {device : DeviceHandle} {sync : ClockSync}
  {timeColumn clocksColumn : String} {a : Aggregator} {subDevice : Nat} {schema : Schema}
  {layout : Layout}

/-! ## Making an aggregator -/

theorem layoutOf_eq_ok (h : layoutOf source timeColumn clocksColumn subDevice = .ok layout) :
    ∃ schema, source.schema? subDevice = some schema ∧ 0 < schema.size ∧
      schema.position? timeColumn = some layout.time ∧
      schema.position? clocksColumn = some layout.clocks := by
  unfold layoutOf at h
  split at h
  · cases h
  · rename_i schema hschema
    split at h
    · cases h
    · rename_i hsize
      split at h
      · cases h
      · cases h
      · rename_i time clocks htime hclocks
        cases h
        exact ⟨schema, hschema, Nat.pos_of_ne_zero hsize, htime, hclocks⟩

theorem withColumns_eq_ok_iff :
    withColumns source device sync timeColumn clocksColumn = .ok a ↔
      ∃ layouts, (List.range source.count).mapM (layoutOf source timeColumn clocksColumn) =
        .ok layouts ∧ a = ⟨source, device, sync, layouts⟩ := by
  unfold withColumns
  simp only [bind_eq_ok_iff, pure_eq_ok_iff, @eq_comm _ a]

/-- The columns of a source do not depend on its chunks. -/
theorem withColumns_of_same (hsame : source.SameStreams source')
    (h : withColumns source device sync timeColumn clocksColumn = .ok a) :
    withColumns source' device sync timeColumn clocksColumn = .ok { a with source := source' } := by
  obtain ⟨layouts, hlayouts, rfl⟩ := withColumns_eq_ok_iff.mp h
  refine withColumns_eq_ok_iff.mpr ⟨layouts, ?_, rfl⟩
  have hlayout : layoutOf source' timeColumn clocksColumn =
      layoutOf source timeColumn clocksColumn := by
    funext subDevice
    unfold layoutOf
    rw [hsame.schema?]
  rw [hsame.count, hlayout, hlayouts]

/-- The sub-device is sampled: its schema is not empty and has both columns. -/
structure Samples (a : Aggregator) (subDevice : Nat) (schema : Schema) (layout : Layout) :
    Prop where
  schema_eq : a.schema subDevice = .ok schema
  layout_eq : a.layout subDevice = .ok layout
  size_pos : 0 < schema.size
  time_lt : layout.time < schema.size
  clocks_lt : layout.clocks < schema.size

theorem layout_eq_ok_iff :
    a.layout subDevice = .ok layout ↔ a.layouts[subDevice]? = some layout := by
  unfold Aggregator.layout
  cases a.layouts[subDevice]? <;> simp

section Made

variable (ha : withColumns source device sync timeColumn clocksColumn = .ok a)

include ha

theorem samples_of_layout (h : a.layout subDevice = .ok layout) :
    ∃ schema, a.Samples subDevice schema layout := by
  obtain ⟨layouts, hlayouts, rfl⟩ := withColumns_eq_ok_iff.mp ha
  obtain ⟨hlength, hat⟩ := List.forall₂_iff_get.mp (mapM_eq_ok_iff.mp hlayouts)
  obtain ⟨hlt, hget⟩ := List.getElem?_eq_some_iff.mp (layout_eq_ok_iff.mp h)
  have hlayout := hat subDevice (hlength ▸ hlt) hlt
  simp only [List.get_eq_getElem, List.getElem_range, hget] at hlayout
  obtain ⟨schema, hschema, hpos, htime, hclocks⟩ := layoutOf_eq_ok hlayout
  refine ⟨schema, ?_, h, hpos, Schema.position?_lt htime, Schema.position?_lt hclocks⟩
  unfold Aggregator.schema
  rw [hschema]

/-- Every sub-device of the source is sampled. -/
theorem samples_of_lt (h : subDevice < source.count) :
    ∃ schema layout, a.Samples subDevice schema layout := by
  obtain ⟨layouts, hlayouts, rfl⟩ := withColumns_eq_ok_iff.mp ha
  have hlength := (mapM_eq_ok_iff.mp hlayouts).length_eq
  rw [List.length_range] at hlength
  have hlt : subDevice < layouts.length := hlength ▸ h
  obtain ⟨schema, hsamples⟩ := samples_of_layout ha
    (layout_eq_ok_iff.mpr (List.getElem?_eq_getElem hlt))
  exact ⟨schema, _, hsamples⟩

end Made

/-! ## Listing a stream -/

theorem Samples.schema? (h : a.Samples subDevice schema layout) :
    a.source.schema? subDevice = some schema := by
  have hschema := h.schema_eq
  unfold Aggregator.schema at hschema
  split at hschema
  · rename_i hsome
    cases hschema
    exact hsome
  · cases hschema

theorem rawReports_of_schema (h : a.source.schema? subDevice = some schema) :
    a.rawReports subDevice =
      .ok (((a.source.chunks subDevice).flatMap (reportsOf schema.size)).map (⟨subDevice, ·⟩)) := by
  unfold Aggregator.rawReports Aggregator.schema
  rw [h]
  rfl

theorem Samples.rawReports (h : a.Samples subDevice schema layout) :
    a.rawReports subDevice =
      .ok (((a.source.chunks subDevice).flatMap (reportsOf schema.size)).map (⟨subDevice, ·⟩)) :=
  rawReports_of_schema h.schema?

end Aggregator

end GpuTrace.Metrics
