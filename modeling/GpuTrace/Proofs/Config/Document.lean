import GpuTrace.Config.Document
import GpuTrace.Proofs.Config.Layers

/-!
# Documents — the settings that a TOML document gives

A text has settings if it is a document and every setting in it has a value of its type
(`parse_eq_ok_iff`). The document is then a layer over the defaults, so that `parse` is one of the
readers that fill them in (`parse_fills`).
-/

namespace GpuTrace

open Calculation
open Toml (Node Entries)

def Layer.ofEntries (document : Entries) : Layer where
  verbose := (document.get? "verbose").bind Config.boolean?
  kernelIntervals := (document.get? "kernel_intervals").bind Config.boolean?
  intervalDomain := (document.get? "interval_domain").bind Config.domain?
  timeColumn := (document.get? "time_column").bind Config.string?
  clocksColumn := (document.get? "clocks_column").bind Config.string?

/-- A text that is no document says nothing. -/
def Layer.ofToml (text : String) : Layer :=
  match Toml.read? text with
  | .ok document => ofEntries document
  | .error _ => blank

namespace Config

variable {α : Type} {document : Entries} {text : String} {c : Config}

theorem setting_eq_ok_iff {key : String} {read : Node → Option α} {fallback a : α} :
    setting document key fallback read = .ok a ↔
      Readable (document.get? key) read ∧ ((document.get? key).bind read).getD fallback = a := by
  unfold setting Readable
  cases document.get? key with
  | none => simp
  | some node => cases hread : read node <;> simp [hread]

structure Typed (document : Entries) : Prop where
  verbose : Readable (document.get? "verbose") boolean?
  kernelIntervals : Readable (document.get? "kernel_intervals") boolean?
  intervalDomain : Readable (document.get? "interval_domain") domain?
  timeColumn : Readable (document.get? "time_column") string?
  clocksColumn : Readable (document.get? "clocks_column") string?

theorem ofEntries_eq_ok_iff : ofEntries document = .ok c ↔
    Typed document ∧ (Layer.ofEntries document).above default = c := by
  unfold ofEntries
  simp only [bind_eq_ok_iff, pure_eq_ok_iff, setting_eq_ok_iff]
  constructor
  · rintro ⟨_, ⟨hverbose, rfl⟩, _, ⟨hintervals, rfl⟩, _, ⟨hdomain, rfl⟩, _, ⟨htime, rfl⟩, _,
      ⟨hclocks, rfl⟩, rfl⟩
    exact ⟨⟨hverbose, hintervals, hdomain, htime, hclocks⟩, rfl⟩
  · rintro ⟨htyped, rfl⟩
    exact ⟨_, ⟨htyped.verbose, rfl⟩, _, ⟨htyped.kernelIntervals, rfl⟩, _,
      ⟨htyped.intervalDomain, rfl⟩, _, ⟨htyped.timeColumn, rfl⟩, _, ⟨htyped.clocksColumn, rfl⟩, rfl⟩

theorem parse_eq_ok_iff : parse text = .ok c ↔ ∃ document, Toml.read? text = .ok document ∧
    Typed document ∧ (Layer.ofEntries document).above default = c := by
  unfold parse
  rw [mapError_eq_ok_iff]
  show Toml.read? text >>= ofEntries = .ok c ↔ _
  simp only [bind_eq_ok_iff, ofEntries_eq_ok_iff]

theorem parse_fills : Reader.Fills parse Layer.ofToml := by
  intro text c h
  obtain ⟨document, hread, -, rfl⟩ := parse_eq_ok_iff.mp h
  unfold Layer.ofToml
  rw [hread]

end Config

end GpuTrace
