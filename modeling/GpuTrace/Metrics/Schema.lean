import GpuTrace.Fault

/-!
# Report schemas

The reports of a sub-device all have the same columns, each with a name and a
kind.
-/

namespace GpuTrace.Metrics

inductive Kind
  | duration
  | event
  | eventWithRange
  | throughput
  | timestamp
  | flag
  | ratio
  | raw
  deriving DecidableEq, Repr

namespace Kind

def name : Kind → String
  | .duration => "Duration"
  | .event => "Event"
  | .eventWithRange => "EventWithRange"
  | .throughput => "Throughput"
  | .timestamp => "Timestamp"
  | .flag => "Flag"
  | .ratio => "Ratio"
  | .raw => "Raw"

def ofName? : String → Option Kind
  | "Duration" => some .duration
  | "Event" => some .event
  | "EventWithRange" => some .eventWithRange
  | "Throughput" => some .throughput
  | "Timestamp" => some .timestamp
  | "Flag" => some .flag
  | "Ratio" => some .ratio
  | "Raw" => some .raw
  | _ => none

@[simp] theorem ofName?_name (k : Kind) : ofName? k.name = some k := by
  cases k <;> rfl

end Kind

structure Column where
  name : String
  kind : Kind
  deriving DecidableEq

structure Schema where
  columns : List Column
  deriving DecidableEq

namespace Schema

/-- Pairs names with kinds, which must be as many. -/
def ofLists (names : List String) (kinds : List Kind) : Except Fault Schema :=
  if names.length = kinds.length then .ok ⟨names.zipWith Column.mk kinds⟩
  else .error (.schemaMismatch names.length kinds.length)

def size (s : Schema) : Nat := s.columns.length

def names (s : Schema) : List String := s.columns.map (·.name)

def kinds (s : Schema) : List Kind := s.columns.map (·.kind)

def position? (s : Schema) (name : String) : Option Nat :=
  s.names.idxOf? name

end Schema

end GpuTrace.Metrics
