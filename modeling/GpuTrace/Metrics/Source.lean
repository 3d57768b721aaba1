import GpuTrace.Metrics.Schema

/-!
# Report sources

A source holds, for each sub-device in order, the schema of its reports and the
chunks that were captured. A chunk is a flat run of whole reports. `push` adds a
chunk only if every report fits the schema; a chunk without values is dropped.
-/

namespace GpuTrace.Metrics

structure Stream where
  schema : Option Schema
  /-- Values in capture order, one list for each chunk. -/
  chunks : List (List Value)
  deriving DecidableEq

/-- Reports of all sub-devices; a sub-device goes by its place. -/
structure Source where
  streams : List Stream
  deriving DecidableEq

namespace Source

def empty : Source := ⟨[]⟩

/-- A 32-bit word, like every id of a sub-device. -/
def count (s : Source) : Nat := s.streams.length % UInt32.size

def schema? (s : Source) (subDevice : Nat) : Option Schema :=
  s.streams[subDevice]?.bind (·.schema)

def chunks (s : Source) (subDevice : Nat) : List (List Value) :=
  (s.streams[subDevice]?.map (·.chunks)).getD []

/-- Adds a stream and answers which sub-device it belongs to. -/
def addStream (s : Source) (stream : Stream) : Nat × Source :=
  (s.count, ⟨s.streams ++ [stream]⟩)

def addSubDevice (s : Source) (schema : Schema) : Nat × Source :=
  s.addStream ⟨some schema, []⟩

def flatten (width : Nat) : List Report → Except Fault (List Value)
  | [] => .ok []
  | report :: reports => do
    if report.length ≠ width then
      throw (.reportWidth report.length width)
    return report ++ (← flatten width reports)

def push (s : Source) (subDevice : Nat) (reports : List Report) : Except Fault Source :=
  match s.streams[subDevice]? with
  | some ⟨some schema, chunks⟩ => do
    let chunk ← flatten schema.size reports
    if chunk.isEmpty then return s
    return ⟨s.streams.set subDevice ⟨some schema, chunks ++ [chunk]⟩⟩
  | _ => throw (.unknownSubDevice subDevice)

end Source

end GpuTrace.Metrics
