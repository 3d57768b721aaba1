import GpuTrace.Fault

/-!
# Selecting reports by begin time

`select` keeps the reports whose begin time lies in a window, ends included. A
chunk is skipped whole if its first report begins after the window or its last
report begins before it, which is right for reports in order of time.
-/

namespace GpuTrace.Metrics

/-- Cuts a chunk into reports of `size` values; values too few for a report are
dropped. -/
def reportsOf (size : Nat) (chunk : List Value) : List Report :=
  if _h : 0 < size ∧ size ≤ chunk.length then
    chunk.take size :: reportsOf size (chunk.drop size)
  else []
termination_by chunk.length
decreasing_by
  rw [List.length_drop]
  omega

def valueAt (report : Report) (column : Nat) : Except Fault Value :=
  match report[column]? with
  | some value => .ok value
  | none => .error (.indexOutOfBounds report.length column)

/-- Begin time of a report, which must be a 64-bit integer. -/
def timeOf (column : Nat) (report : Report) : Except Fault UInt64 := do
  let value ← valueAt report column
  match value.word64? with
  | some time => return time
  | none => throw (.timeNotWord64 value)

def inWindow (start stop time : UInt64) : Bool :=
  start ≤ time && time ≤ stop

def filterByTime (column : Nat) (start stop : UInt64) : List Report → Except Fault (List Report)
  | [] => .ok []
  | report :: reports => do
    let time ← timeOf column report
    let rest ← filterByTime column start stop reports
    return if inWindow start stop time then report :: rest else rest

def selectChunk (size column : Nat) (start stop : UInt64) (chunk : List Value) :
    Except Fault (List Report) := do
  if chunk.length % size ≠ 0 then
    throw (.partialReport (chunk.length % size))
  if chunk.isEmpty then return []
  let first ← timeOf column (chunk.take size)
  if stop < first then return []
  let last ← timeOf column (chunk.drop (chunk.length - size))
  if last < start then return []
  filterByTime column start stop (reportsOf size chunk)

def selectChunks (size column : Nat) (start stop : UInt64) :
    List (List Value) → Except Fault (List Report)
  | [] => .ok []
  | chunk :: chunks => do
    let reports ← selectChunk size column start stop chunk
    return reports ++ (← selectChunks size column start stop chunks)

def select (chunks : List (List Value)) (size column : Nat) (start stop : UInt64) :
    Except Fault (List Report) := do
  if size = 0 then throw .emptyReport
  if size ≤ column then throw .timeColumnOutside
  if stop < start then throw (.reversedWindow start stop)
  selectChunks size column start stop chunks

end GpuTrace.Metrics
