import GpuTrace.Config
import GpuTrace.Toml.Reader

/-!
# Documents — settings written in TOML

`parse` is the reader of the tracing program. A setting stands under its own
name at the top of the document, keys that are no settings are ignored, and what
the document leaves out has its default.
-/

namespace GpuTrace.Config

open Toml (Node Entries)

/-- A setting that was given a value of another type. -/
def wrongType : Toml.ReadError :=
  ⟨1, .malformed⟩

/-- The value under a key, or the default if the key is absent. -/
def setting {α : Type} (entries : Entries) (key : String) (fallback : α)
    (read : Node → Option α) : Except Toml.ReadError α :=
  match entries.get? key with
  | none => .ok fallback
  | some node =>
    match read node with
    | some a => .ok a
    | none => .error wrongType

def boolean? : Node → Option Bool
  | .boolean b => some b
  | _ => none

def string? : Node → Option String
  | .string s => some s
  | _ => none

def isBare : Node → Bool
  | .table _ entries => entries.isEmpty
  | .array elements => elements.isEmpty
  | .tables items => items.isEmpty
  | _ => false

/-- A choice is written as its name, or as a table with this name as the only key
and nothing under it. -/
def domain? : Node → Option ClockDomain
  | .string s => ClockDomain.ofName? s
  | .table _ [(name, content)] => if isBare content then ClockDomain.ofName? name else none
  | _ => none

/-- Settings of a document; keys that are no settings are ignored. -/
def ofEntries (entries : Entries) : Except Toml.ReadError Config := do
  return {
    verbose := ← setting entries "verbose" default.verbose boolean?
    kernelIntervals := ← setting entries "kernel_intervals" default.kernelIntervals boolean?
    intervalDomain := ← setting entries "interval_domain" default.intervalDomain domain?
    timeColumn := ← setting entries "time_column" default.timeColumn string?
    clocksColumn := ← setting entries "clocks_column" default.clocksColumn string? }

def parse : Reader := fun text =>
  ((Toml.read? text).bind ofEntries).mapError Toml.ReadError.message

def ofToml (text : String) : Except SetupError Config :=
  ofText parse text

end GpuTrace.Config
