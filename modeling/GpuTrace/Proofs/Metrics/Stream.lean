import GpuTrace.Metrics.Source
import GpuTrace.Metrics.Window
import GpuTrace.Proofs.Calculation

/-!
# Streams — chunks that are runs of whole reports

A source that was made by adding sub-devices and pushing reports is `Built`. Each of its streams
has a schema, and each chunk of it is a run of whole reports as wide as the schema (`Built.run`).
Cutting a run gives its reports back (`reportsOf_flatten`), so the reports of a stream do not depend
on how it is cut into chunks (`reportsOf_chunks`).
-/

namespace GpuTrace.Metrics

open Calculation

variable {size : Nat}

/-! ## Cutting a run -/

theorem reportsOf_nil (size : Nat) : reportsOf size [] = [] := by
  rw [reportsOf, dif_neg]
  rintro ⟨hpos, hle⟩
  exact Nat.not_le.mpr hpos hle

theorem reportsOf_append {report : Report} {rest : List Value} (hpos : 0 < size)
    (hwidth : report.length = size) :
    reportsOf size (report ++ rest) = report :: reportsOf size rest := by
  have hfits : size ≤ (report ++ rest).length := by
    rw [List.length_append]
    omega
  rw [reportsOf, dif_pos ⟨hpos, hfits⟩, List.take_left' hwidth, List.drop_left' hwidth]

/-- Cutting reports of the same width that were joined gives them back. -/
theorem reportsOf_flatten {reports : List Report} (hpos : 0 < size)
    (hwidth : ∀ report ∈ reports, report.length = size) :
    reportsOf size reports.flatten = reports := by
  induction reports with
  | nil => exact reportsOf_nil size
  | cons report reports ih =>
    obtain ⟨hreport, hrest⟩ := List.forall_mem_cons.mp hwidth
    rw [List.flatten_cons, reportsOf_append hpos hreport, ih hrest]

theorem length_flatten_run {reports : List Report}
    (hwidth : ∀ report ∈ reports, report.length = size) :
    reports.flatten.length = reports.length * size := by
  induction reports with
  | nil => simp
  | cons report reports ih =>
    obtain ⟨hreport, hrest⟩ := List.forall_mem_cons.mp hwidth
    rw [List.flatten_cons, List.length_append, hreport, ih hrest, List.length_cons, Nat.succ_mul,
      Nat.add_comm]

/-! ## Runs -/

/-- The chunk is a run of these reports, of which there is at least one. -/
structure Run (size : Nat) (reports : List Report) (chunk : List Value) : Prop where
  some : reports ≠ []
  width : ∀ report ∈ reports, report.length = size
  joined : chunk = reports.flatten

theorem Run.reportsOf {reports : List Report} {chunk : List Value} (h : Run size reports chunk)
    (hpos : 0 < size) : reportsOf size chunk = reports := by
  rw [h.joined]
  exact reportsOf_flatten hpos h.width

/-- Cutting the chunks one by one is cutting the whole stream. -/
theorem reportsOf_chunks {chunks : List (List Value)} (hpos : 0 < size)
    (hruns : ∀ chunk ∈ chunks, ∃ reports, Run size reports chunk) :
    chunks.flatMap (reportsOf size) = reportsOf size chunks.flatten := by
  have hjoined : (chunks.flatMap (reportsOf size)).flatten = chunks.flatten ∧
      ∀ report ∈ chunks.flatMap (reportsOf size), report.length = size := by
    induction chunks with
    | nil => simp
    | cons chunk chunks ih =>
      obtain ⟨⟨reports, hrun⟩, hrest⟩ := List.forall_mem_cons.mp hruns
      obtain ⟨hflat, hwidth⟩ := ih hrest
      rw [List.flatMap_cons, hrun.reportsOf hpos]
      constructor
      · rw [List.flatten_append, hflat, List.flatten_cons, hrun.joined]
      · intro report hreport
        rcases List.mem_append.mp hreport with hhere | hlater
        · exact hrun.width report hhere
        · exact hwidth report hlater
  rw [← hjoined.1, reportsOf_flatten hpos hjoined.2]

/-! ## Sources -/

namespace Source

/-- Sources that are made by adding sub-devices and pushing reports; a push that is refused leaves
the source as it was. -/
inductive Built : Source → Prop
  | empty : Built .empty
  | addSubDevice {s : Source} (h : Built s) (schema : Schema) : Built (s.addSubDevice schema).2
  | push {s s' : Source} {subDevice : Nat} {reports : List Report} (h : Built s)
      (accepted : s.push subDevice reports = .ok s') : Built s'

theorem flatten_eq_ok {width : Nat} {reports : List Report} {chunk : List Value}
    (h : flatten width reports = .ok chunk) :
    chunk = reports.flatten ∧ ∀ report ∈ reports, report.length = width := by
  induction reports generalizing chunk with
  | nil =>
    cases h
    exact ⟨rfl, List.forall_mem_nil _⟩
  | cons report reports ih =>
    unfold flatten at h
    by_cases hwidth : report.length = width
    · simp only [hwidth, ne_eq, not_true, if_false, bind_eq_ok_iff, pure_eq_ok_iff] at h
      obtain ⟨rest, hrest, rfl⟩ := h
      obtain ⟨rfl, hall⟩ := ih hrest
      exact ⟨rfl, List.forall_mem_cons.mpr ⟨hwidth, hall⟩⟩
    · simp [hwidth, bind_eq_ok_iff] at h

/-- A push that is accepted adds one run to the chunks of its sub-device, or nothing. -/
theorem push_eq_ok {s s' : Source} {subDevice : Nat} {reports : List Report}
    (h : s.push subDevice reports = .ok s') :
    ∃ schema chunks, s.streams[subDevice]? = some ⟨some schema, chunks⟩ ∧
      (s' = s ∨ ∃ chunk, Run schema.size reports chunk ∧
        s' = ⟨s.streams.set subDevice ⟨some schema, chunks ++ [chunk]⟩⟩) := by
  unfold push at h
  split at h
  · rename_i schema chunks hstream
    refine ⟨schema, chunks, hstream, ?_⟩
    obtain ⟨chunk, hchunk, hs'⟩ := bind_eq_ok_iff.mp h
    obtain ⟨hjoined, hwidth⟩ := flatten_eq_ok hchunk
    by_cases hempty : chunk.isEmpty = true
    · rw [if_pos hempty, pure_eq_ok_iff] at hs'
      exact .inl hs'.symm
    · rw [if_neg hempty, pure_eq_ok_iff] at hs'
      refine .inr ⟨chunk, ⟨?_, hwidth, hjoined⟩, hs'.symm⟩
      rintro rfl
      rw [hjoined] at hempty
      exact hempty rfl
  · cases h

/-- Every stream has a schema and consists of runs. -/
theorem Built.stream {s : Source} (h : s.Built) {stream : Stream} (hmem : stream ∈ s.streams) :
    ∃ schema, stream.schema = some schema ∧
      ∀ chunk ∈ stream.chunks, ∃ reports, Run schema.size reports chunk := by
  induction h generalizing stream with
  | empty => cases hmem
  | addSubDevice _ schema ih =>
    rcases List.mem_append.mp hmem with hold | hnew
    · exact ih hold
    · obtain rfl := List.mem_singleton.mp hnew
      exact ⟨schema, rfl, List.forall_mem_nil _⟩
  | push _ accepted ih =>
    obtain ⟨schema, chunks, hstream, rfl | ⟨chunk, hrun, rfl⟩⟩ := push_eq_ok accepted
    · exact ih hmem
    · rcases List.mem_or_eq_of_mem_set hmem with hold | rfl
      · exact ih hold
      · obtain ⟨_, ⟨⟩, hruns⟩ := ih (List.mem_of_getElem? hstream)
        refine ⟨schema, rfl, fun chunk' hchunk' => ?_⟩
        rcases List.mem_append.mp hchunk' with hold | hnew
        · exact hruns chunk' hold
        · obtain rfl := List.mem_singleton.mp hnew
          exact ⟨_, hrun⟩

theorem Built.run {s : Source} (h : s.Built) {subDevice : Nat} {schema : Schema}
    (hschema : s.schema? subDevice = some schema) :
    ∀ chunk ∈ s.chunks subDevice, ∃ reports, Run schema.size reports chunk := by
  unfold schema? at hschema
  unfold chunks
  obtain ⟨stream, hstream, hsome⟩ := Option.bind_eq_some_iff.mp hschema
  obtain ⟨schema', hschema', hruns⟩ := h.stream (List.mem_of_getElem? hstream)
  rw [hsome] at hschema'
  cases hschema'
  rw [hstream]
  exact hruns

/-- Every report of a stream is as wide as the schema. -/
theorem Built.width {s : Source} (h : s.Built) {subDevice : Nat} {schema : Schema}
    (hschema : s.schema? subDevice = some schema) (hpos : 0 < schema.size) :
    ∀ report ∈ (s.chunks subDevice).flatMap (reportsOf schema.size),
      report.length = schema.size := by
  intro report hreport
  obtain ⟨chunk, hchunk, hin⟩ := List.mem_flatMap.mp hreport
  obtain ⟨reports, hrun⟩ := h.run hschema chunk hchunk
  rw [hrun.reportsOf hpos] at hin
  exact hrun.width report hin

end Source

end GpuTrace.Metrics
