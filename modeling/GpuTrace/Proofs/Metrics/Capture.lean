import GpuTrace.Proofs.Metrics.Selection

/-!
# Capture — the raw listing of a sub-device is what was pushed to it

Sub-devices are added to a source and reports pushed to it in any order (`Request`). A push is
refused exactly if its sub-device is not there or a report is not as wide as the schema
(`push_eq_error_iff`), and then changes nothing.

A source has `Captured` the reports that were accepted for each sub-device if it holds their values
in order, in whatever chunks. Every request keeps this (`Captured.after`), so it holds after any
number of them (`Captured.afterAll`), and the values are cut into just these reports again when they
are listed (`rawReports_of_captured`).
-/

namespace GpuTrace.Metrics

open Calculation

namespace Source

/-! ## Requests -/

inductive Request
  | addSubDevice (schema : Schema)
  | push (subDevice : Nat) (reports : List Report)

/-- The source after a request; a push that is refused changes nothing. -/
def after (s : Source) : Request → Source
  | .addSubDevice schema => (s.addSubDevice schema).2
  | .push subDevice reports =>
    match s.push subDevice reports with
    | .ok s' => s'
    | .error _ => s

def afterAll (s : Source) (requests : List Request) : Source :=
  requests.foldl after s

@[simp] theorem afterAll_cons (s : Source) (q : Request) (requests : List Request) :
    s.afterAll (q :: requests) = (s.after q).afterAll requests := rfl

def added : List Request → List Schema
  | [] => []
  | .addSubDevice schema :: requests => schema :: added requests
  | .push .. :: requests => added requests

/-- Why a push is refused, if the sub-devices have these schemas: its sub-device is none of them,
or a report, the first of its kind, does not have a value for each column. -/
def refusal? (schemas : List Schema) (subDevice : Nat) (reports : List Report) : Option Fault :=
  match schemas[subDevice]? with
  | none => some (.unknownSubDevice subDevice)
  | some schema =>
    (reports.find? (·.length ≠ schema.size)).map fun report =>
      .reportWidth report.length schema.size

/-- Reports of the accepted pushes to a sub-device, in order; `schemas` are those of the sub-devices
so far. -/
def accepted (subDevice : Nat) : List Schema → List Request → List Report
  | _, [] => []
  | schemas, .addSubDevice schema :: requests =>
    accepted subDevice (schemas ++ [schema]) requests
  | schemas, .push pushedTo reports :: requests =>
    (if pushedTo = subDevice ∧ refusal? schemas pushedTo reports = none then reports else []) ++
      accepted subDevice schemas requests

/-! ## Pushing reports -/

variable {s s' : Source} {subDevice : Nat} {schema : Schema} {schemas : List Schema}
  {reports : List Report} {taken : Nat → List Report}

theorem flatten_eq_error_iff {width : Nat} {e : Fault} :
    flatten width reports = .error e ↔
      (reports.find? (·.length ≠ width)).map (fun report => .reportWidth report.length width) =
        some e := by
  induction reports with
  | nil => simp [flatten]
  | cons report reports ih =>
    unfold flatten
    by_cases hwidth : report.length = width
    · rw [List.find?_cons_of_neg (by simpa using hwidth), ← ih]
      cases flatten width reports <;> simp [hwidth, bind, Except.bind, pure, Except.pure]
    · rw [List.find?_cons_of_pos (by simpa using hwidth)]
      simp [hwidth, bind, Except.bind, throw, throwThe, MonadExceptOf.throw]

theorem getElem?_streams (h : s.streams.map (·.schema) = schemas.map some) :
    s.streams[subDevice]? =
      schemas[subDevice]?.map fun schema => ⟨some schema, s.chunks subDevice⟩ := by
  have hat := congrArg (·[subDevice]?) h
  simp only [List.getElem?_map] at hat
  unfold chunks
  cases hstream : s.streams[subDevice]? with
  | none =>
    rw [hstream, Option.map_none, eq_comm, Option.map_eq_none_iff] at hat
    rw [hat, Option.map_none]
  | some stream =>
    rw [hstream, Option.map_some, eq_comm, Option.map_eq_some_iff] at hat
    obtain ⟨schema, hschema, hsome⟩ := hat
    rw [hschema, Option.map_some, hsome]
    rfl

theorem schema?_eq (h : s.streams.map (·.schema) = schemas.map some) :
    s.schema? subDevice = schemas[subDevice]? := by
  unfold schema?
  rw [getElem?_streams h]
  cases schemas[subDevice]? <;> rfl

/-- What a push is refused with. -/
theorem push_eq_error_iff (h : s.streams.map (·.schema) = schemas.map some) {e : Fault} :
    s.push subDevice reports = .error e ↔ refusal? schemas subDevice reports = some e := by
  unfold push refusal?
  rw [getElem?_streams h]
  cases schemas[subDevice]? with
  | none => simp [throw, throwThe, MonadExceptOf.throw]
  | some schema =>
    rw [← flatten_eq_error_iff]
    cases hflat : flatten schema.size reports with
    | error e => simp [hflat, bind, Except.bind]
    | ok chunk =>
      simp only [Option.map_some, hflat, bind, Except.bind, pure, Except.pure]
      split <;> simp

theorem refusal?_eq_none_iff :
    refusal? schemas subDevice reports = none ↔ ∃ schema, schemas[subDevice]? = some schema ∧
      ∀ report ∈ reports, report.length = schema.size := by
  unfold refusal?
  cases schemas[subDevice]? <;> simp

theorem chunks_set {stream : Stream} (hstream : s.streams[subDevice]? = some stream)
    (chunks : List (List Value)) (other : Nat) :
    Source.chunks ⟨s.streams.set subDevice { stream with chunks }⟩ other =
      if subDevice = other then chunks else s.chunks other := by
  obtain ⟨hlt, -⟩ := List.getElem?_eq_some_iff.mp hstream
  unfold Source.chunks
  rw [List.getElem?_set]
  by_cases hother : subDevice = other
  · rw [if_pos hother, if_pos hlt, if_pos hother]
    rfl
  · rw [if_neg hother, if_neg hother]

/-- A push that is accepted adds its reports to the values of its sub-device. -/
theorem push_values (h : s.push subDevice reports = .ok s') (other : Nat) :
    (s'.chunks other).flatten =
      (s.chunks other).flatten ++ if subDevice = other then reports.flatten else [] := by
  unfold push at h
  split at h
  · rename_i schema chunks hstream
    obtain ⟨chunk, hchunk, hs'⟩ := bind_eq_ok_iff.mp h
    obtain ⟨rfl, -⟩ := flatten_eq_ok hchunk
    split at hs'
    · rename_i hempty
      obtain rfl := pure_eq_ok_iff.mp hs'
      rw [List.isEmpty_iff.mp hempty, ite_self, List.append_nil]
    · obtain rfl := pure_eq_ok_iff.mp hs'
      rw [chunks_set hstream]
      by_cases hother : subDevice = other
      · subst hother
        have hchunks : s.chunks subDevice = chunks := by
          unfold Source.chunks
          rw [hstream]
          rfl
        rw [if_pos rfl, if_pos rfl, hchunks, List.flatten_append, List.flatten_singleton]
      · rw [if_neg hother, if_neg hother, List.append_nil]
  · cases h

theorem push_schemas (h : s.push subDevice reports = .ok s') :
    s'.streams.map (·.schema) = s.streams.map (·.schema) := by
  obtain ⟨schema, chunks, hstream, rfl | ⟨chunk, -, rfl⟩⟩ := push_eq_ok h
  · rfl
  · obtain ⟨hlt, -⟩ := List.getElem?_eq_some_iff.mp hstream
    refine List.ext_getElem? fun other => ?_
    rw [List.getElem?_map, List.getElem?_map, List.getElem?_set]
    by_cases hother : subDevice = other
    · subst hother
      rw [if_pos rfl, if_pos hlt, hstream]
      rfl
    · rw [if_neg hother]

theorem exists_push_eq_ok (h : s.streams.map (·.schema) = schemas.map some)
    (hnone : refusal? schemas subDevice reports = none) :
    ∃ s', s.push subDevice reports = .ok s' := by
  cases hpush : s.push subDevice reports with
  | ok s' => exact ⟨s', rfl⟩
  | error e =>
    rw [(push_eq_error_iff h).mp hpush] at hnone
    cases hnone

theorem chunks_addSubDevice (s : Source) (schema : Schema) (other : Nat) :
    (s.addSubDevice schema).2.chunks other = s.chunks other := by
  change ((s.streams ++ [⟨some schema, []⟩])[other]?.map (·.chunks)).getD [] = _
  unfold chunks
  rcases Nat.lt_trichotomy other s.streams.length with hold | rfl | hpast
  · rw [List.getElem?_append_left hold]
  · rw [List.getElem?_concat_length, List.getElem?_eq_none (Nat.le_refl _)]
    rfl
  · rw [List.getElem?_eq_none (Nat.le_of_lt hpast),
      List.getElem?_eq_none (by simpa [Nat.succ_le_iff] using hpast)]

/-! ## Runs of requests -/

/-- The source holds the values of these reports, and each report fits its sub-device. -/
structure Captured (s : Source) (schemas : List Schema) (taken : Nat → List Report) : Prop where
  built : s.Built
  known : s.streams.map (·.schema) = schemas.map some
  values : ∀ subDevice, (s.chunks subDevice).flatten = (taken subDevice).flatten
  fits : ∀ subDevice, ∀ report ∈ taken subDevice,
    ∃ schema, schemas[subDevice]? = some schema ∧ report.length = schema.size

theorem captured_empty : Captured .empty [] fun _ => [] :=
  ⟨.empty, rfl, fun _ => rfl, fun _ => List.forall_mem_nil _⟩

namespace Captured

theorem addSubDevice (h : s.Captured schemas taken) (schema : Schema) :
    (s.addSubDevice schema).2.Captured (schemas ++ [schema]) taken := by
  refine ⟨h.built.addSubDevice schema, ?_, fun d => ?_, fun d report hreport => ?_⟩
  · change (s.streams ++ [(⟨some schema, []⟩ : Stream)]).map (·.schema) = _
    rw [List.map_append, h.known, List.map_append]
    rfl
  · rw [chunks_addSubDevice, h.values]
  · obtain ⟨found, hfound, hwidth⟩ := h.fits d report hreport
    obtain ⟨hlt, -⟩ := List.getElem?_eq_some_iff.mp hfound
    exact ⟨found, by rw [List.getElem?_append_left hlt, hfound], hwidth⟩

theorem push (h : s.Captured schemas taken) (hpush : s.push subDevice reports = .ok s')
    (hnone : refusal? schemas subDevice reports = none) :
    s'.Captured schemas fun other =>
      taken other ++ if subDevice = other then reports else [] := by
  refine ⟨h.built.push hpush, (push_schemas hpush).trans h.known, fun other => ?_,
    fun other report hreport => ?_⟩
  · rw [push_values hpush, h.values, List.flatten_append]
    split <;> rfl
  · rcases List.mem_append.mp hreport with hold | hnew
    · exact h.fits other report hold
    · split at hnew
      · rename_i hother
        subst hother
        obtain ⟨schema, hschema, hwidth⟩ := refusal?_eq_none_iff.mp hnone
        exact ⟨schema, hschema, hwidth report hnew⟩
      · cases hnew

theorem after (h : s.Captured schemas taken) (q : Request) :
    (s.after q).Captured (schemas ++ added [q])
      fun subDevice => taken subDevice ++ accepted subDevice schemas [q] := by
  cases q with
  | addSubDevice schema =>
    simp only [Source.after, added, accepted, List.append_nil]
    exact h.addSubDevice schema
  | push pushedTo reports =>
    simp only [Source.after, added, accepted, List.append_nil]
    cases hrefusal : refusal? schemas pushedTo reports with
    | none =>
      obtain ⟨s', hpush⟩ := exists_push_eq_ok h.known hrefusal
      simpa only [hpush, and_true] using h.push hpush hrefusal
    | some e =>
      simpa [(push_eq_error_iff h.known).mpr hrefusal] using h

theorem afterAll (h : s.Captured schemas taken) (requests : List Request) :
    (s.afterAll requests).Captured (schemas ++ added requests)
      fun subDevice => taken subDevice ++ accepted subDevice schemas requests := by
  induction requests generalizing s schemas taken with
  | nil =>
    simp only [added, accepted, List.append_nil]
    exact h
  | cons q requests ih =>
    have hrest := ih (h.after q)
    cases q <;> simpa [added, accepted] using hrest

end Captured

end Source

namespace Aggregator

variable {source : Source} {device : DeviceHandle} {sync : ClockSync}
  {timeColumn clocksColumn : String} {a : Aggregator} {subDevice : Nat} {schema : Schema}
  {schemas : List Schema} {taken : Nat → List Report}

theorem source_of_withColumns
    (ha : withColumns source device sync timeColumn clocksColumn = .ok a) : a.source = source := by
  obtain ⟨layouts, -, rfl⟩ := withColumns_eq_ok_iff.mp ha
  rfl

theorem count_of_captured (h : source.Captured schemas taken) :
    source.count = schemas.length % UInt32.size := by
  have hlength := congrArg List.length h.known
  rw [List.length_map, List.length_map] at hlength
  unfold Source.count
  rw [hlength]

/-- No schema that an aggregator has looked at is empty, and it looks at all sub-devices that 32
bits can count. -/
theorem size_pos_of_captured (hcaptured : source.Captured schemas taken)
    (ha : withColumns source device sync timeColumn clocksColumn = .ok a)
    (hfew : schemas.length < UInt32.size) (h : schemas[subDevice]? = some schema) :
    0 < schema.size := by
  obtain ⟨hlt, -⟩ := List.getElem?_eq_some_iff.mp h
  have hcount : source.count = schemas.length :=
    (count_of_captured hcaptured).trans (Nat.mod_eq_of_lt hfew)
  obtain ⟨found, layout, hsamples⟩ := samples_of_lt ha (hcount ▸ hlt)
  have hfound := hsamples.schema?
  rw [source_of_withColumns ha, Source.schema?_eq hcaptured.known, h] at hfound
  rw [Option.some.inj hfound]
  exact hsamples.size_pos

/-- The raw listing of a sub-device is what the source has captured for it. -/
theorem rawReports_of_captured (hcaptured : source.Captured schemas taken)
    (ha : withColumns source device sync timeColumn clocksColumn = .ok a)
    (hwide : schemas.length < UInt32.size ∨ ∀ schema ∈ schemas[subDevice]?, 0 < schema.size) :
    a.rawReports subDevice =
      if subDevice < schemas.length then .ok ((taken subDevice).map (⟨subDevice, ·⟩))
      else .error (.schemaMissing subDevice) := by
  have hschema : a.source.schema? subDevice = schemas[subDevice]? := by
    rw [source_of_withColumns ha, Source.schema?_eq hcaptured.known]
  split
  · rename_i hlt
    have hsome := List.getElem?_eq_getElem hlt
    have hpos : 0 < schemas[subDevice].size := by
      rcases hwide with hfew | hwide
      · exact size_pos_of_captured hcaptured ha hfew hsome
      · exact hwide _ hsome
    have hruns := hcaptured.built.run ((Source.schema?_eq hcaptured.known).trans hsome)
    have hwidth : ∀ report ∈ taken subDevice, report.length = schemas[subDevice].size := by
      intro report hreport
      obtain ⟨found, hfound, hlength⟩ := hcaptured.fits subDevice report hreport
      rw [hsome, Option.some_inj] at hfound
      rw [hlength, hfound]
    rw [rawReports_of_schema (hschema.trans hsome), source_of_withColumns ha,
      reportsOf_chunks hpos hruns, hcaptured.values, reportsOf_flatten hpos hwidth]
  · rename_i hge
    rw [List.getElem?_eq_none (Nat.not_lt.mp hge)] at hschema
    unfold Aggregator.rawReports Aggregator.schema
    rw [hschema]
    rfl

/-- Whatever is added and pushed, a push is refused exactly for an unknown sub-device or a report
that does not fit, and the raw listing of a sub-device is the reports of the accepted pushes to it,
in order. Only where 32 bits cannot count the sub-devices is one without columns not turned away
when the aggregator is made; its reports have no values to list. -/
theorem rawReports_eq_accepted (requests : List Source.Request) :
    let source := Source.empty.afterAll requests
    let schemas := Source.added requests
    (∀ schema, (source.addSubDevice schema).1 = schemas.length % UInt32.size) ∧
    (∀ subDevice reports e, source.push subDevice reports = .error e ↔
      Source.refusal? schemas subDevice reports = some e) ∧
    ∀ device sync timeColumn clocksColumn a,
      withColumns source device sync timeColumn clocksColumn = .ok a →
      ∀ subDevice,
        (schemas.length < UInt32.size ∨ ∀ schema ∈ schemas[subDevice]?, 0 < schema.size) →
        a.rawReports subDevice =
          if subDevice < schemas.length then
            .ok ((Source.accepted subDevice [] requests).map (⟨subDevice, ·⟩))
          else .error (.schemaMissing subDevice) := by
  intro source schemas
  have hcaptured : source.Captured schemas fun d => Source.accepted d [] requests := by
    simpa using Source.captured_empty.afterAll requests
  exact ⟨fun _ => count_of_captured hcaptured,
    fun _ _ _ => Source.push_eq_error_iff hcaptured.known,
    fun _ _ _ _ _ ha _ => rawReports_of_captured hcaptured ha⟩

def flaggedSchema : Schema := ⟨clockSchema.columns ++ [⟨"valid", .flag⟩]⟩

def flaggedReport (n : UInt64) : Report := [.word64 n, .word64 n, .flag true]

/-- Two sub-devices by turns: pushes come too early, are empty or have a report of the other
width. -/
def interleaved : List Source.Request :=
  [.push 0 fourReports, .addSubDevice clockSchema, .push 0 (fourReports.take 1),
    .push 1 [flaggedReport 1], .addSubDevice flaggedSchema, .push 1 [flaggedReport 2], .push 0 [],
    .push 0 [[.word64 20, .word64 2], flaggedReport 3], .push 0 (fourReports.drop 2),
    .push 1 [flaggedReport 4]]

/-- The early push and the one with a report that is too wide are not listed, not even in part. -/
theorem rawReports_interleaved :
    ∃ a, withColumns (Source.empty.afterAll interleaved) ⟨1⟩ ⟨0, 0, 1000⟩ "begin" "clocks" =
        .ok a ∧
      a.rawReports 0 = .ok
        [⟨0, [.word64 10, .word64 1]⟩, ⟨0, [.word64 20, .word64 3]⟩,
          ⟨0, [.word64 30, .word64 4]⟩] ∧
      a.rawReports 1 = .ok [⟨1, flaggedReport 2⟩, ⟨1, flaggedReport 4⟩] ∧
      a.rawReports 2 = .error (.schemaMissing 2) := by
  obtain ⟨-, -, hraw⟩ := rawReports_eq_accepted interleaved
  have hmade : withColumns (Source.empty.afterAll interleaved) ⟨1⟩ ⟨0, 0, 1000⟩ "begin" "clocks" =
      .ok ⟨Source.empty.afterAll interleaved, ⟨1⟩, ⟨0, 0, 1000⟩, [⟨0, 1⟩, ⟨0, 1⟩]⟩ := by
    decide +kernel
  have hfew : (Source.added interleaved).length < UInt32.size := by decide
  refine ⟨_, hmade, ?_, ?_, ?_⟩
  · rw [hraw _ _ _ _ _ hmade _ (.inl hfew)]
    decide +kernel
  · rw [hraw _ _ _ _ _ hmade _ (.inl hfew)]
    decide +kernel
  · rw [hraw _ _ _ _ _ hmade _ (.inl hfew)]
    decide +kernel

end Aggregator

end GpuTrace.Metrics
