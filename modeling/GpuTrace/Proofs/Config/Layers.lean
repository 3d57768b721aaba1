import GpuTrace.Config
import GpuTrace.Proofs.Calculation

/-!
# Layers — where settings come from

A layer is what one source says about the settings. It may leave any of them open, and what it
leaves open is decided below it (`Layer.above`).

A document is a layer over the defaults, whatever its reader, as long as the reader fills in what a
document leaves out (`Reader.Fills`). The columns must then have names, and different ones
(`ofText_eq_ok_iff`, `validate_eq_ok_iff`).

The environment is a layer over any settings if every variable in it names a value
(`override_eq_ok_iff`). Of those that do not, the first one is complained of
(`override_of_verbose`, `override_of_intervals`, `override_of_intervalDomain`). A variable counts as
its text, and one that is not UTF-8 is not seen (`text?_eq_some_iff`, `ofVariables_eq_ok_iff`).
-/

namespace GpuTrace

open Calculation

def Readable {α β : Type} (source : Option β) (read : β → Option α) : Prop :=
  ∀ b, source = some b → ∃ a, read b = some a

/-- What one source says about the settings. -/
structure Layer where
  verbose : Option Bool
  kernelIntervals : Option Bool
  intervalDomain : Option ClockDomain
  timeColumn : Option String
  clocksColumn : Option String

namespace Layer

def blank : Layer := ⟨none, none, none, none, none⟩

/-- Settings under a layer: what it leaves open stays as it is. -/
def above (l : Layer) (c : Config) : Config where
  verbose := l.verbose.getD c.verbose
  kernelIntervals := l.kernelIntervals.getD c.kernelIntervals
  intervalDomain := l.intervalDomain.getD c.intervalDomain
  timeColumn := l.timeColumn.getD c.timeColumn
  clocksColumn := l.clocksColumn.getD c.clocksColumn

def ofEnvironment (env : Environment) : Layer where
  verbose := env.verbose.bind Config.flag?
  kernelIntervals := env.intervals.bind Config.flag?
  intervalDomain := env.intervalDomain.bind ClockDomain.ofText?
  timeColumn := none
  clocksColumn := none

end Layer

namespace Environment

/-! ## Variables -/

/-- The text of a variable with this content, if it has one: bytes that are not UTF-8 are none. -/
def text? (content : Option (List UInt8)) : Option String :=
  content.bind fun bytes => String.fromUTF8? bytes.toByteArray

def ofContents (contents : String → Option (List UInt8)) : Environment :=
  ⟨text? (contents verboseName), text? (contents intervalsName),
    text? (contents intervalDomainName)⟩

def Shows (contents : String → Option (List UInt8)) (name value : String) : Prop :=
  contents name = some value.toUTF8.data.toList

variable {contents : String → Option (List UInt8)} {name value : String}

theorem text?_eq_some_iff : text? (contents name) = some value ↔ Shows contents name value := by
  unfold text? Shows
  rw [Option.bind_eq_some_iff]
  constructor
  · rintro ⟨bytes, hbytes, htext⟩
    unfold String.fromUTF8? at htext
    split_ifs at htext with hvalid
    rw [hbytes, ← Option.some.inj htext]
    exact congrArg some List.toList_data_toByteArray.symm
  · intro h
    refine ⟨_, h, ?_⟩
    have hbytes : value.toUTF8.data.toList.toByteArray = value.toByteArray := by
      apply ByteArray.ext
      rw [List.data_toByteArray]
      rfl
    rw [hbytes]
    exact dif_pos value.isValidUTF8

/-- The variable is not seen, or its text has a meaning. -/
def Clear {α : Type} (contents : String → Option (List UInt8)) (name : String)
    (means : String → α → Prop) : Prop :=
  ∀ value, Shows contents name value → ∃ a, means value a

theorem readable_iff_clear {α : Type} {read : String → Option α} {means : String → α → Prop}
    (hread : ∀ value a, read value = some a ↔ means value a) :
    Readable (text? (contents name)) read ↔ Clear contents name means := by
  unfold Readable Clear
  simp only [text?_eq_some_iff, hread]

theorem check_eq_ok_iff {content : List UInt8} : check name content = .ok () ↔
    (name ≠ "" ∧ '\x00' ∉ name.toList ∧ '=' ∉ name.toList) ∧ 0 ∉ content := by
  unfold check
  simp only [String.contains_char_eq, Bool.or_eq_true, decide_eq_true_eq, List.contains_iff_mem,
    String.isEmpty_iff]
  constructor
  · intro h
    split_ifs at h with hnul hname
    exact ⟨⟨mt .inl hname, mt .inl hnul, mt .inr hname⟩, mt .inr hnul⟩
  · rintro ⟨⟨hempty, hnul, hequals⟩, hcontent⟩
    rw [if_neg (not_or.mpr ⟨hnul, hcontent⟩), if_neg (not_or.mpr ⟨hempty, hequals⟩)]

/-- A process with variables that it can have sees their texts. -/
theorem ofVariables_eq_ok_iff {entries : List (String × List UInt8)} {env : Environment} :
    ofVariables entries = .ok env ↔
      (∀ v ∈ entries, check v.1 v.2 = .ok ()) ∧ ofContents (entries.lookup ·) = env := by
  unfold ofVariables
  simp only [bind_eq_ok_iff, pure_eq_ok_iff]
  constructor
  · rintro ⟨_, hcheck, rfl⟩
    exact ⟨forM_eq_ok_iff.mp hcheck, rfl⟩
  · rintro ⟨hcheck, rfl⟩
    exact ⟨(), forM_eq_ok_iff.mpr hcheck, rfl⟩

/-- Every variable that is a text names a value. -/
structure Legible (env : Environment) : Prop where
  verbose : Readable env.verbose Config.flag?
  intervals : Readable env.intervals Config.flag?
  intervalDomain : Readable env.intervalDomain ClockDomain.ofText?

end Environment

namespace Config

variable {α : Type} {read : Reader} {text value name : String} {c c' : Config} {b : Bool}
  {env : Environment}

/-! ## Columns -/

structure NamesColumns (c : Config) : Prop where
  time : c.timeColumn ≠ ""
  clocks : c.clocksColumn ≠ ""
  apart : c.timeColumn ≠ c.clocksColumn

theorem namesColumns_default : default.NamesColumns := by
  constructor <;> decide

inductive Misnames (c : Config) : String → Prop
  | unnamedTime (time : c.timeColumn = "") : Misnames c "time_column must not be empty"
  | unnamedClocks (time : c.timeColumn ≠ "") (clocks : c.clocksColumn = "") :
      Misnames c "clocks_column must not be empty"
  | shared (time : c.timeColumn ≠ "") (same : c.timeColumn = c.clocksColumn) :
      Misnames c s!"time_column and clocks_column both name {c.timeColumn}"

theorem validate_eq_ok_iff : c.validate = .ok () ↔ c.NamesColumns := by
  unfold validate
  simp only [String.isEmpty_iff]
  constructor
  · intro h
    split_ifs at h with htime hclocks hsame
    exact ⟨htime, hclocks, hsame⟩
  · rintro ⟨htime, hclocks, hapart⟩
    rw [if_neg htime, if_neg hclocks, if_neg hapart]

theorem validate_eq_error_iff {e : SetupError} :
    c.validate = .error e ↔ ∃ reason, c.Misnames reason ∧ .config reason = e := by
  unfold validate
  simp only [String.isEmpty_iff]
  constructor
  · intro h
    split_ifs at h with htime hclocks hsame
    · exact ⟨_, .unnamedTime htime, Except.error.inj h⟩
    · exact ⟨_, .unnamedClocks htime hclocks, Except.error.inj h⟩
    · exact ⟨_, .shared htime hsame, Except.error.inj h⟩
  · rintro ⟨_, hreason, rfl⟩
    cases hreason with
    | unnamedTime htime => rw [if_pos htime]
    | unnamedClocks htime hclocks => rw [if_neg htime, if_pos hclocks]
    | shared htime hsame => rw [if_neg htime, if_neg (hsame ▸ htime), if_pos hsame]

/-! ## Documents -/

/-- The reader fills in the defaults: what a document does not give is as in the default settings.
`given` is what documents give. -/
def Reader.Fills (read : Reader) (given : String → Layer) : Prop :=
  ∀ text c, read text = .ok c → c = (given text).above default

theorem ofText_eq_ok_iff : ofText read text = .ok c ↔ read text = .ok c ∧ c.NamesColumns := by
  unfold ofText
  cases hread : read text with
  | error reason =>
    constructor
    · rintro ⟨⟩
    · rintro ⟨⟨⟩, -⟩
  | ok c' =>
    dsimp only
    simp only [bind_eq_ok_iff, pure_eq_ok_iff]
    constructor
    · rintro ⟨_, hvalid, rfl⟩
      exact ⟨rfl, validate_eq_ok_iff.mp hvalid⟩
    · rintro ⟨⟨⟩, hcolumns⟩
      exact ⟨(), validate_eq_ok_iff.mpr hcolumns, rfl⟩

theorem ofText_of_error {reason : String} (h : read text = .error reason) :
    ofText read text = .error (.configParse reason) := by
  unfold ofText
  rw [h]
  rfl

theorem ofText_of_misnames {reason : String} (h : read text = .ok c)
    (hreason : c.Misnames reason) : ofText read text = .error (.config reason) := by
  unfold ofText
  rw [h]
  exact bind_eq_error_iff.mpr (.inl (validate_eq_error_iff.mpr ⟨reason, hreason, rfl⟩))

/-! ## Values of variables -/

def spellings : Bool → List String
  | true => ["1", "true", "yes", "on"]
  | false => ["0", "false", "no", "off"]

/-- A text spells a truth value in any case of letters, with blanks around it. -/
def Spells (value : String) (b : Bool) : Prop :=
  Text.lowercase (Text.trim value) ∈ spellings b

theorem flag?_eq_some_iff (value : String) (b : Bool) : flag? value = some b ↔ Spells value b := by
  unfold flag? Spells
  generalize Text.lowercase (Text.trim value) = word
  constructor
  · intro h
    split at h <;> cases h <;> simp [spellings]
  · intro h
    cases b with
    | true =>
      simp only [spellings, List.mem_cons, List.not_mem_nil, or_false] at h
      rcases h with rfl | rfl | rfl | rfl <;> rfl
    | false =>
      simp only [spellings, List.mem_cons, List.not_mem_nil, or_false] at h
      rcases h with rfl | rfl | rfl | rfl <;> rfl

theorem flag?_eq_none_iff : flag? value = none ↔ ∀ b, ¬ Spells value b := by
  rw [Option.eq_none_iff_forall_ne_some]
  exact forall_congr' fun b => not_congr (flag?_eq_some_iff value b)

/-- A text names a domain in any case of letters. -/
def Names (value : String) (d : ClockDomain) : Prop :=
  Text.lowercase value = d.name

theorem ofText?_eq_some_iff (value : String) (d : ClockDomain) :
    ClockDomain.ofText? value = some d ↔ Names value d := by
  unfold ClockDomain.ofText? Names
  generalize Text.lowercase value = word
  constructor
  · intro h
    unfold ClockDomain.ofName? at h
    split at h <;> cases h <;> rfl
  · rintro rfl
    exact ClockDomain.ofName?_name d

theorem ofText?_eq_none_iff : ClockDomain.ofText? value = none ↔ ∀ d, ¬ Names value d := by
  rw [Option.eq_none_iff_forall_ne_some]
  exact forall_congr' fun d => not_congr (ofText?_eq_some_iff value d)

def flagComplaint (name value : String) : SetupError :=
  .config s!"{name}: expected a boolean, got {Text.quoted (Text.lowercase (Text.trim value))}"

def domainComplaint (name value : String) : SetupError :=
  .config s!"{name}: {ClockDomain.invalidText value}"

theorem parseFlag_eq_ok_iff (value : String) (b : Bool) :
    parseFlag name value = .ok b ↔ flag? value = some b := by
  unfold parseFlag
  cases flag? value <;> simp

theorem parseFlag_of_none (h : flag? value = none) :
    parseFlag name value = .error (flagComplaint name value) := by
  unfold parseFlag
  rw [h]
  rfl

theorem parseDomain_eq_ok_iff (value : String) (d : ClockDomain) :
    parseDomain name value = .ok d ↔ ClockDomain.ofText? value = some d := by
  unfold parseDomain
  cases ClockDomain.ofText? value <;> simp

theorem parseDomain_of_none (h : ClockDomain.ofText? value = none) :
    parseDomain name value = .error (domainComplaint name value) := by
  unfold parseDomain
  rw [h]
  rfl

/-! ## The environment -/

section Environment

variable {read : String → Except SetupError α} {read? : String → Option α} {source : Option String}

theorem replaced_eq_ok_iff (hread : ∀ value a, read value = .ok a ↔ read? value = some a)
    {setting a : α} : replaced source setting read = .ok a ↔
      Readable source read? ∧ (source.bind read?).getD setting = a := by
  unfold replaced Readable
  cases source with
  | none => simp
  | some value =>
    dsimp only
    rw [hread]
    cases hvalue : read? value <;> simp [hvalue]

theorem replaced_of_readable (hread : ∀ value a, read value = .ok a ↔ read? value = some a)
    (h : Readable source read?) (setting : α) :
    replaced source setting read = .ok ((source.bind read?).getD setting) :=
  (replaced_eq_ok_iff hread).mpr ⟨h, rfl⟩

theorem replaced_of_error {value : String} {setting : α} {e : SetupError}
    (h : read value = .error e) : replaced (some value) setting read = .error e := h

end Environment

theorem override_eq_ok_iff :
    c.override env = .ok c' ↔ env.Legible ∧ (Layer.ofEnvironment env).above c = c' := by
  unfold override
  simp only [bind_eq_ok_iff, pure_eq_ok_iff, replaced_eq_ok_iff parseFlag_eq_ok_iff,
    replaced_eq_ok_iff parseDomain_eq_ok_iff]
  constructor
  · rintro ⟨_, ⟨hverbose, rfl⟩, _, ⟨hintervals, rfl⟩, _, ⟨hdomain, rfl⟩, rfl⟩
    exact ⟨⟨hverbose, hintervals, hdomain⟩, rfl⟩
  · rintro ⟨hlegible, rfl⟩
    exact ⟨_, ⟨hlegible.verbose, rfl⟩, _, ⟨hlegible.intervals, rfl⟩, _,
      ⟨hlegible.intervalDomain, rfl⟩, rfl⟩

theorem override_of_verbose (hvalue : env.verbose = some value) (hflag : flag? value = none) :
    c.override env = .error (flagComplaint Environment.verboseName value) := by
  unfold override
  rw [hvalue]
  exact bind_eq_error_iff.mpr (.inl (replaced_of_error (parseFlag_of_none hflag)))

theorem override_of_intervals (hverbose : Readable env.verbose flag?)
    (hvalue : env.intervals = some value) (hflag : flag? value = none) :
    c.override env = .error (flagComplaint Environment.intervalsName value) := by
  unfold override
  rw [replaced_of_readable parseFlag_eq_ok_iff hverbose, hvalue]
  refine bind_eq_error_iff.mpr (.inr ⟨_, rfl, ?_⟩)
  exact bind_eq_error_iff.mpr (.inl (replaced_of_error (parseFlag_of_none hflag)))

theorem override_of_intervalDomain (hverbose : Readable env.verbose flag?)
    (hintervals : Readable env.intervals flag?) (hvalue : env.intervalDomain = some value)
    (hdomain : ClockDomain.ofText? value = none) :
    c.override env = .error (domainComplaint Environment.intervalDomainName value) := by
  unfold override
  rw [replaced_of_readable parseFlag_eq_ok_iff hverbose,
    replaced_of_readable parseFlag_eq_ok_iff hintervals, hvalue]
  refine bind_eq_error_iff.mpr (.inr ⟨_, rfl, bind_eq_error_iff.mpr (.inr ⟨_, rfl, ?_⟩)⟩)
  exact bind_eq_error_iff.mpr (.inl (replaced_of_error (parseDomain_of_none hdomain)))

end Config

end GpuTrace
