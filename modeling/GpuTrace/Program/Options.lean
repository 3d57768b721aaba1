/-!
# Options — the command line of the tracing program

Arguments are read from left to right. An option in its long form takes a value
from behind `=` or from the next argument, one in its short form also from the
characters behind it; an argument that begins with a dash is never such a next
argument. The value of an option is checked when the next option begins or the
arguments end, so an unknown argument is noticed before a wrong value in front
of it. Every option may be given once.
-/

namespace GpuTrace

inductive TableFormat
  | text
  | json
  deriving DecidableEq, Repr

namespace TableFormat

def ofName? : String → Option TableFormat
  | "text" => some .text
  | "json" => some .json
  | _ => none

end TableFormat

structure Options where
  format : TableFormat
  /-- Names carry launch dimensions and byte counts. -/
  verbose : Bool
  /-- File with the configuration. -/
  config : Option String
  /-- Kernel launches of the workload. -/
  kernels : UInt32
  /-- A line is written for every completed call. -/
  printCalls : Bool
  debug : Bool
  deriving DecidableEq, Repr

inductive Rejection
  /-- A missing or empty value, or one that is no choice. -/
  | invalidValue
  /-- A value that is no number in range. -/
  | invalidNumber
  | unknownArgument
  /-- An option that was given twice. -/
  | repeated
  /-- A value for an option that takes none. -/
  | unexpectedValue
  | help
  | version
  deriving DecidableEq, Repr

inductive OptionName
  | format
  | verbose
  | config
  | kernels
  | printCalls
  | debug
  | help
  | version
  deriving DecidableEq, Repr

namespace OptionName

def ofLong? : String → Option OptionName
  | "format" => some .format
  | "verbose" => some .verbose
  | "config" => some .config
  | "kernels" => some .kernels
  | "print-calls" => some .printCalls
  | "debug" => some .debug
  | "help" => some .help
  | "version" => some .version
  | _ => none

def ofShort? : Char → Option OptionName
  | 'v' => some .verbose
  | 'k' => some .kernels
  | 'h' => some .help
  | 'V' => some .version
  | _ => none

def takesValue : OptionName → Bool
  | .format | .config | .kernels => true
  | .verbose | .printCalls | .debug | .help | .version => false

end OptionName

namespace Options

def default : Options where
  format := .text
  verbose := false
  config := none
  kernels := 4
  printCalls := false
  debug := false

instance : Inhabited Options := ⟨default⟩

/-- Decimal digits, at least one. -/
def digits? (cs : List Char) : Option Nat :=
  if cs.isEmpty || !cs.all Char.isDigit then none
  else some (cs.foldl (fun n c => 10 * n + (c.toNat - '0'.toNat)) 0)

/-- A count in decimal with an optional sign, which must fit in 32 bits. A minus is
allowed in front of zero. -/
def count? (s : String) : Option UInt32 :=
  let inRange (n : Nat) : Option UInt32 :=
    if n < UInt32.size then some (UInt32.ofNat n) else none
  match s.toList with
  | '+' :: cs => (digits? cs).bind inRange
  | '-' :: cs => (digits? cs).bind fun n => if n = 0 then some 0 else none
  | cs => (digits? cs).bind inRange

def apply (o : Options) (name : OptionName) (value : String) : Except Rejection Options :=
  match name with
  | .format =>
    match TableFormat.ofName? value with
    | some format => .ok { o with format }
    | none => .error .invalidValue
  | .config => if value.isEmpty then .error .invalidValue else .ok { o with config := some value }
  | .kernels =>
    match count? value with
    | some kernels => .ok { o with kernels }
    | none => .error .invalidNumber
  | .verbose => .ok { o with verbose := true }
  | .printCalls => .ok { o with printCalls := true }
  | .debug => .ok { o with debug := true }
  | .help => .error .help
  | .version => .error .version

/-- An option whose value comes with the next argument, or came with it and was not
checked yet. -/
structure Waiting where
  name : OptionName
  value : Option String

structure Reading where
  options : Options
  given : List OptionName
  waiting : Option Waiting

namespace Reading

def take (r : Reading) (name : OptionName) (value : Option String) : Except Rejection Reading := do
  if name.takesValue && value.isNone then throw .invalidValue
  if name ∈ r.given then throw .repeated
  let options ← r.options.apply name (value.getD "")
  return { r with options, given := name :: r.given }

def settle (r : Reading) : Except Rejection Reading :=
  match r.waiting with
  | none => .ok r
  | some w => { r with waiting := none }.take w.name w.value

def occur (r : Reading) (name : OptionName) (value : Option String) : Except Rejection Reading := do
  (← r.settle).take name value

def await (r : Reading) (name : OptionName) : Except Rejection Reading := do
  return { (← r.settle) with waiting := some ⟨name, none⟩ }

/-- Reads an argument in long form, with the value behind the first `=`. -/
def long (r : Reading) (text : List Char) : Except Rejection Reading :=
  let value : Option String :=
    match text.dropWhile (· ≠ '=') with
    | [] => none
    | _ :: cs => some (String.ofList cs)
  match OptionName.ofLong? (String.ofList (text.takeWhile (· ≠ '='))) with
  | none => .error .unknownArgument
  | some name =>
    match name.takesValue, value with
    | true, some v => r.occur name (some v)
    | true, none => r.await name
    | false, some _ => .error .unexpectedValue
    | false, none => r.occur name none

/-- Reads options in short form; the first one that takes a value has the rest of
the characters as its value, of which a leading `=` is no part. -/
def short (r : Reading) : List Char → Except Rejection Reading
  | [] => .ok r
  | c :: cs =>
    match OptionName.ofShort? c with
    | none => .error .unknownArgument
    | some name =>
      if name.takesValue then
        match cs with
        | [] => r.await name
        | '=' :: value => r.occur name (some (String.ofList value))
        | value => r.occur name (some (String.ofList value))
      else do
        (← r.occur name none).short cs

/-- Reads an argument that names no option: the value that an option waits for. -/
def plain (r : Reading) (argument : String) : Except Rejection Reading :=
  match r.waiting with
  | some ⟨name, none⟩ => .ok { r with waiting := some ⟨name, some argument⟩ }
  | _ => .error .unknownArgument

/-- Reads all arguments. Nothing may follow two dashes that stand alone. -/
def arguments (r : Reading) : List String → Except Rejection Reading
  | [] => r.settle
  | argument :: rest =>
    match argument.toList with
    | ['-', '-'] => if rest.isEmpty then r.settle else .error .unknownArgument
    | '-' :: '-' :: text => do (← r.long text).arguments rest
    | '-' :: c :: cs => do (← r.short (c :: cs)).arguments rest
    | _ => do (← r.plain argument).arguments rest

end Reading

def read (arguments : List String) : Except Rejection Options :=
  (·.options) <$> (⟨default, [], none⟩ : Reading).arguments arguments

end Options

end GpuTrace
