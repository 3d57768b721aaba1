import GpuTrace.Program.Run
import GpuTrace.Proofs.Config.Document

/-!
# Loading — the settings of a run and the first complaint about them

The settings of a run are four layers: the option for verbose names, the environment, the document
in the file, and the defaults (`settled`). How the document is read is left to a reader that fills in
the defaults. A run without a file leaves everything to the other layers.

Six checks stand in front of the settings (`Check`). What a check complains of does not depend on
the checks before it (`Complains`), and loading reports the complaint of the first check that has
one (`loadConfig_layered`).
-/

namespace GpuTrace

/-- The command line can ask for verbose names and for nothing else. -/
def Layer.ofOptions (options : Options) : Layer where
  verbose := if options.verbose then some true else none
  kernelIntervals := none
  intervalDomain := none
  timeColumn := none
  clocksColumn := none

theorem Layer.ofOptions_above (options : Options) (c : Config) :
    (ofOptions options).above c = if options.verbose then { c with verbose := true } else c := by
  unfold ofOptions above
  cases options.verbose <;> rfl

namespace Program

open Environment (Clear Shows ofContents readable_iff_clear text?_eq_some_iff)
open Environment (verboseName intervalsName intervalDomainName)

/-! ## Checks -/

/-- The checks of loading, in their order. The last three are about one variable each. -/
inductive Check
  /-- The file can be read. -/
  | file
  /-- The text can be read. -/
  | document
  /-- The report columns have names, and different ones. -/
  | columns
  | verbose
  | intervals
  | intervalDomain

def Check.place : Check → Nat
  | file => 0
  | document => 1
  | columns => 2
  | verbose => 3
  | intervals => 4
  | intervalDomain => 5

def unloaded (path : String) (cause : SetupError) : Failure :=
  ⟨s!"Failed to load config {path}", cause⟩

def misset (cause : SetupError) : Failure :=
  ⟨"Invalid KERNTRACE_* environment override", cause⟩

variable (read : Config.Reader) (files : Files) (options : Options)
  (contents : String → Option (List UInt8))

/-- What each check complains of, whatever the checks before it say. -/
inductive Complains : Check → Failure → Prop
  | unreadable {path e} (named : options.config = some path) (content : files path = .error e) :
      Complains .file (unloaded path (.file e))
  | malformed {path text reason} (named : options.config = some path)
      (content : files path = .ok text) (unparsed : read text = .error reason) :
      Complains .document (unloaded path (.configParse reason))
  | misnamed {path text c reason} (named : options.config = some path)
      (content : files path = .ok text) (parsed : read text = .ok c)
      (misnames : c.Misnames reason) : Complains .columns (unloaded path (.config reason))
  | verbose {value} (shown : Shows contents verboseName value)
      (unclear : ∀ b, ¬ Config.Spells value b) :
      Complains .verbose (misset (Config.flagComplaint verboseName value))
  | intervals {value} (shown : Shows contents intervalsName value)
      (unclear : ∀ b, ¬ Config.Spells value b) :
      Complains .intervals (misset (Config.flagComplaint intervalsName value))
  | intervalDomain {value} (shown : Shows contents intervalDomainName value)
      (unclear : ∀ d, ¬ Config.Names value d) :
      Complains .intervalDomain (misset (Config.domainComplaint intervalDomainName value))

/-- A complaint that is reported: no check before has one. -/
structure Reported (check : Check) (failure : Failure) : Prop where
  complains : Complains read files options contents check failure
  first : ∀ earlier other, Complains read files options contents earlier other →
    check.place ≤ earlier.place

/-- The settings under the environment: those in the file, if they can be read and name the
columns. -/
inductive Fits : Config → Prop
  | nothing (unnamed : options.config = none) : Fits .default
  | file {path text c} (named : options.config = some path) (content : files path = .ok text)
      (parsed : read text = .ok c) (columns : c.NamesColumns) : Fits c

structure Accepted : Prop where
  document : ∃ c, Fits read files options c
  verbose : Clear contents verboseName Config.Spells
  intervals : Clear contents intervalsName Config.Spells
  intervalDomain : Clear contents intervalDomainName Config.Names

def document? : Option String :=
  options.config.bind fun path => (files path).toOption

/-- The settings of a run: the layers one on top of the other, the uppermost first. `given` is what
documents give. -/
def settled (given : String → Layer) : Config :=
  [.ofOptions options, .ofEnvironment (ofContents contents),
    (document? files options).elim .blank given].foldr Layer.above .default

/-! ## Loading the document -/

variable {read files options contents} {env : Environment} {c : Config} {path text : String}
  {check : Check} {failure : Failure} {cause : SetupError}

theorem loadConfig_of_unloaded (hnamed : options.config = some path)
    (h : configOfFile read files path = .error cause) :
    loadConfig read files env options = .error (unloaded path cause) := by
  unfold loadConfig
  rw [hnamed]
  dsimp only
  rw [h]
  rfl

theorem configOfFile_of_error {e : FileError} (h : files path = .error e) :
    configOfFile read files path = .error (.file e) := by
  unfold configOfFile
  rw [h]

theorem configOfFile_of_ok (h : files path = .ok text) :
    configOfFile read files path = Config.ofText read text := by
  unfold configOfFile
  rw [h]

theorem Fits.columns (h : Fits read files options c) : c.NamesColumns := by
  cases h with
  | nothing unnamed => exact Config.namesColumns_default
  | file named content parsed columns => exact columns

/-- If the reader fills in the defaults, what it answers is the layer of the document over them. -/
theorem Fits.eq_above {given : String → Layer} (h : Fits read files options c)
    (hfills : read.Fills given) :
    c = ((document? files options).elim .blank given).above .default := by
  unfold document?
  cases h with
  | nothing unnamed =>
    rw [unnamed]
    rfl
  | file named content parsed columns =>
    rw [named, Option.bind_some, content]
    exact hfills _ _ parsed

/-- Behind a document that fits, only the environment can fail. -/
theorem loadConfig_of_fits (h : Fits read files options c) :
    loadConfig read files env options =
      (within "Invalid KERNTRACE_* environment override" (c.override env)).map
        (Layer.ofOptions options).above := by
  have hlast : (Layer.ofOptions options).above =
      fun c => if options.verbose then { c with verbose := true } else c :=
    funext (Layer.ofOptions_above options)
  rw [hlast]
  unfold loadConfig
  cases h with
  | nothing unnamed =>
    rw [unnamed]
    rfl
  | file named content parsed columns =>
    have hfile : configOfFile read files _ = .ok c :=
      (configOfFile_of_ok content).trans (Config.ofText_eq_ok_iff.mpr ⟨parsed, columns⟩)
    rw [named]
    dsimp only
    rw [hfile]
    rfl

theorem loadConfig_of_misset (h : Fits read files options c)
    (herror : c.override env = .error cause) :
    loadConfig read files env options = .error (misset cause) := by
  rw [loadConfig_of_fits h, herror]
  rfl

/-- If the first three checks are silent, there are settings that fit. -/
theorem fits_of_quiet (h : ∀ check failure, Complains read files options contents check failure →
    Check.verbose.place ≤ check.place) : ∃ c, Fits read files options c := by
  cases hnamed : options.config with
  | none => exact ⟨_, .nothing hnamed⟩
  | some path =>
    cases hcontent : files path with
    | error e => exact absurd (h _ _ (.unreadable hnamed hcontent)) (by decide)
    | ok text =>
      cases hparsed : read text with
      | error reason => exact absurd (h _ _ (.malformed hnamed hcontent hparsed)) (by decide)
      | ok c =>
        cases hvalid : c.validate with
        | ok _ => exact ⟨c, .file hnamed hcontent hparsed (Config.validate_eq_ok_iff.mp hvalid)⟩
        | error e =>
          obtain ⟨reason, hmisnames, -⟩ := Config.validate_eq_error_iff.mp hvalid
          exact absurd (h _ _ (.misnamed hnamed hcontent hparsed hmisnames)) (by decide)

/-! ## Loading the settings -/

/-- A variable is clear if the check that is about it is silent. -/
theorem clear_of_quiet {α : Type} {name : String} {means : String → α → Prop}
    (h : ∀ failure, ¬ Complains read files options contents check failure)
    {complaint : String → Failure} (hunclear : ∀ {value}, Shows contents name value →
      (∀ a, ¬ means value a) → Complains read files options contents check (complaint value)) :
    Clear contents name means := by
  intro value hshown
  by_contra hnone
  exact h _ (hunclear hshown (not_exists.mp hnone))

theorem Reported.quiet {earlier : Check} (h : Reported read files options contents check failure)
    (hearlier : earlier.place < check.place) :
    ∀ other, ¬ Complains read files options contents earlier other :=
  fun other hother => absurd (h.first earlier other hother) (Nat.not_le_of_lt hearlier)

theorem Reported.fits (h : Reported read files options contents check failure)
    (hcheck : Check.verbose.place ≤ check.place) : ∃ c, Fits read files options c :=
  fits_of_quiet fun earlier other hother => Nat.le_trans hcheck (h.first earlier other hother)

theorem Reported.verbose (h : Reported read files options contents check failure)
    (hcheck : Check.verbose.place < check.place) :
    Readable (ofContents contents).verbose Config.flag? :=
  (readable_iff_clear Config.flag?_eq_some_iff).mpr (clear_of_quiet (h.quiet hcheck) .verbose)

theorem Reported.intervals (h : Reported read files options contents check failure)
    (hcheck : Check.intervals.place < check.place) :
    Readable (ofContents contents).intervals Config.flag? :=
  (readable_iff_clear Config.flag?_eq_some_iff).mpr (clear_of_quiet (h.quiet hcheck) .intervals)

theorem Accepted.legible (h : Accepted read files options contents) :
    (ofContents contents).Legible :=
  ⟨(readable_iff_clear Config.flag?_eq_some_iff).mpr h.verbose,
    (readable_iff_clear Config.flag?_eq_some_iff).mpr h.intervals,
    (readable_iff_clear Config.ofText?_eq_some_iff).mpr h.intervalDomain⟩

/-- Without a complaint, the environment and the option are layers over the settings that fit. -/
theorem loadConfig_of_accepted (h : Accepted read files options contents)
    (hfits : Fits read files options c) :
    loadConfig read files (ofContents contents) options =
      .ok ((Layer.ofOptions options).above
        ((Layer.ofEnvironment (ofContents contents)).above c)) := by
  rw [loadConfig_of_fits hfits, Config.override_eq_ok_iff.mpr ⟨h.legible, rfl⟩]
  rfl

theorem loadConfig_of_reported (h : Reported read files options contents check failure) :
    loadConfig read files (ofContents contents) options = .error failure := by
  cases h.complains with
  | unreadable named content =>
    exact loadConfig_of_unloaded named (configOfFile_of_error content)
  | malformed named content unparsed =>
    refine loadConfig_of_unloaded named ((configOfFile_of_ok content).trans ?_)
    exact Config.ofText_of_error unparsed
  | misnamed named content parsed misnames =>
    refine loadConfig_of_unloaded named ((configOfFile_of_ok content).trans ?_)
    exact Config.ofText_of_misnames parsed misnames
  | verbose shown unclear =>
    obtain ⟨c, hfits⟩ := h.fits (by decide)
    refine loadConfig_of_misset hfits (Config.override_of_verbose ?_ ?_)
    · exact text?_eq_some_iff.mpr shown
    · exact Config.flag?_eq_none_iff.mpr unclear
  | intervals shown unclear =>
    obtain ⟨c, hfits⟩ := h.fits (by decide)
    refine loadConfig_of_misset hfits (Config.override_of_intervals (h.verbose (by decide)) ?_ ?_)
    · exact text?_eq_some_iff.mpr shown
    · exact Config.flag?_eq_none_iff.mpr unclear
  | intervalDomain shown unclear =>
    obtain ⟨c, hfits⟩ := h.fits (by decide)
    refine loadConfig_of_misset hfits (Config.override_of_intervalDomain (h.verbose (by decide))
      (h.intervals (by decide)) ?_ ?_)
    · exact text?_eq_some_iff.mpr shown
    · exact Config.ofText?_eq_none_iff.mpr unclear

/-- Of the checks that complain there is a first one. -/
theorem exists_reported (h : Complains read files options contents check failure) :
    ∃ check failure, Reported read files options contents check failure := by
  induction hplace : check.place using Nat.strongRecOn generalizing check failure with
  | ind place ih =>
    by_cases hearlier : ∃ earlier other, Complains read files options contents earlier other ∧
        earlier.place < check.place
    · obtain ⟨earlier, other, hother, hlt⟩ := hearlier
      exact ih earlier.place (hplace ▸ hlt) hother rfl
    · refine ⟨check, failure, h, fun earlier other hother => ?_⟩
      by_contra hlt
      exact hearlier ⟨earlier, other, hother, Nat.lt_of_not_le hlt⟩

/-- Either everything is accepted or a complaint is reported. -/
theorem accepted_or_reported : Accepted read files options contents ∨
    ∃ check failure, Reported read files options contents check failure := by
  by_cases hquiet : ∃ check failure, Complains read files options contents check failure
  · obtain ⟨check, failure, h⟩ := hquiet
    exact .inr (exists_reported h)
  · have hsilent : ∀ check failure, ¬ Complains read files options contents check failure :=
      fun check failure h => hquiet ⟨check, failure, h⟩
    exact .inl ⟨fits_of_quiet fun check failure h => absurd h (hsilent check failure),
      clear_of_quiet (hsilent _) .verbose, clear_of_quiet (hsilent _) .intervals,
      clear_of_quiet (hsilent _) .intervalDomain⟩

theorem loadConfig_eq_ok_iff :
    loadConfig read files (ofContents contents) options = .ok c ↔
      Accepted read files options contents ∧ ∃ below, Fits read files options below ∧
        c = (Layer.ofOptions options).above
          ((Layer.ofEnvironment (ofContents contents)).above below) := by
  constructor
  · intro hc
    rcases accepted_or_reported with haccepted | ⟨check, failure, hreported⟩
    · obtain ⟨below, hfits⟩ := haccepted.document
      rw [loadConfig_of_accepted haccepted hfits] at hc
      exact ⟨haccepted, below, hfits, (Except.ok.inj hc).symm⟩
    · rw [loadConfig_of_reported hreported] at hc
      cases hc
  · rintro ⟨haccepted, below, hfits, rfl⟩
    exact loadConfig_of_accepted haccepted hfits

theorem loadConfig_eq_error_iff :
    loadConfig read files (ofContents contents) options = .error failure ↔
      ∃ check, Reported read files options contents check failure := by
  constructor
  · intro hfailure
    rcases accepted_or_reported with haccepted | ⟨check, other, hreported⟩
    · obtain ⟨below, hfits⟩ := haccepted.document
      rw [loadConfig_of_accepted haccepted hfits] at hfailure
      cases hfailure
    · rw [loadConfig_of_reported hreported] at hfailure
      cases hfailure
      exact ⟨check, hreported⟩
  · rintro ⟨check, hreported⟩
    exact loadConfig_of_reported hreported

variable (read files options contents)

/-- **Settings are layered, and the first complaint is reported.** Let a reader fill in the defaults
under what a document gives. Loading answers exactly if the document and the variables are accepted.
The settings are then those of the option over those of the environment over those of the document
over the defaults, and they pass the check of the columns. Otherwise it fails with the complaint of
the first check that has one. -/
theorem loadConfig_layered (given : String → Layer) (hfills : read.Fills given) :
    ((∃ c, loadConfig read files (ofContents contents) options = .ok c) ↔
        Accepted read files options contents) ∧
      (∀ c, loadConfig read files (ofContents contents) options = .ok c →
        c.validate = .ok () ∧ c = settled files options contents given) ∧
      ∀ failure, loadConfig read files (ofContents contents) options = .error failure ↔
        ∃ check, Reported read files options contents check failure := by
  refine ⟨⟨?_, ?_⟩, ?_, fun failure => loadConfig_eq_error_iff⟩
  · rintro ⟨c, hc⟩
    exact (loadConfig_eq_ok_iff.mp hc).1
  · intro haccepted
    obtain ⟨below, hfits⟩ := haccepted.document
    exact ⟨_, loadConfig_of_accepted haccepted hfits⟩
  · intro c hc
    obtain ⟨-, below, hfits, rfl⟩ := loadConfig_eq_ok_iff.mp hc
    -- the layers over the document leave its columns as they are
    have hcolumns : ((Layer.ofOptions options).above
        ((Layer.ofEnvironment (ofContents contents)).above below)).NamesColumns :=
      ⟨hfits.columns.time, hfits.columns.clocks, hfits.columns.apart⟩
    refine ⟨Config.validate_eq_ok_iff.mpr hcolumns, ?_⟩
    rw [hfits.eq_above hfills]
    rfl

def mixedFiles : Files := fun _ =>
  .ok "verbose = false\ninterval_domain = \"device\"\nclocks_column = \"Clocks\"\n"

/-- A variable that is not UTF-8 and one that is. -/
def mixedVariables : List (String × List UInt8) :=
  [(verboseName, [0xFF]), (intervalsName, " OFF ".toUTF8.data.toList)]

def mixedOptions : Options :=
  { Options.default with config := some "trace.toml", verbose := true }

/-- Each layer decides a setting: the option the names, the environment the intervals, the file
their domain and a column, and the defaults the other column. -/
theorem loadConfig_layered_mixed :
    ∃ env c, Environment.ofVariables mixedVariables = .ok env ∧
      loadConfig Config.parse mixedFiles env mixedOptions = .ok c ∧
      c = ⟨true, false, .device, "QueryBeginTime", "Clocks"⟩ ∧ c.validate = .ok () ∧
      Config.Reader.Fills Config.parse Layer.ofToml ∧
      c = settled mixedFiles mixedOptions (mixedVariables.lookup ·) Layer.ofToml := by
  have hpresent : ∀ v ∈ mixedVariables, Environment.check v.1 v.2 = .ok () := by
    simp only [Environment.check_eq_ok_iff]
    decide +kernel
  have hseen := Environment.ofVariables_eq_ok_iff.mpr ⟨hpresent, rfl⟩
  have hloaded : loadConfig Config.parse mixedFiles (ofContents (mixedVariables.lookup ·))
      mixedOptions = .ok ⟨true, false, .device, "QueryBeginTime", "Clocks"⟩ := by
    decide +kernel
  obtain ⟨-, hlayers, -⟩ := loadConfig_layered Config.parse mixedFiles mixedOptions
    (mixedVariables.lookup ·) Layer.ofToml Config.parse_fills
  obtain ⟨hvalid, hsettled⟩ := hlayers _ hloaded
  exact ⟨_, _, hseen, hloaded, rfl, hvalid, Config.parse_fills, hsettled⟩

/-- Two faults: the columns of the file are looked at before the variables. -/
example :
    loadConfig Config.parse (fun _ => .ok "time_column = \"X\"\nclocks_column = \"X\"\n")
        ⟨some "maybe", none, some "gpu"⟩ { Options.default with config := some "trace.toml" } =
      .error ⟨"Failed to load config trace.toml",
        .config "time_column and clocks_column both name X"⟩ := by
  decide +kernel

end Program

end GpuTrace
