import GpuTrace.Toml.Number

/-!
# Reading TOML

`read?` takes a text to the entries of its document. A text is a sequence of
statements, one to a line: assignments, headers of tables and headers of arrays
of tables. Values may be nested to a fixed depth.

Steps that repeat are bounded by the number of characters of the text, since
every repetition takes at least one.
-/

namespace GpuTrace.Toml

inductive Cause
  /-- The characters here begin nothing that may stand here. -/
  | malformed
  /-- A key or a table that is defined already, or in another way. -/
  | conflict
  /-- Too many levels of nesting. -/
  | tooDeep
  deriving DecidableEq

structure ReadError where
  /-- Number of the line, from one on. -/
  line : Nat
  cause : Cause
  deriving DecidableEq

namespace ReadError

def message (e : ReadError) : String :=
  let cause :=
    match e.cause with
    | .malformed => "unexpected characters"
    | .conflict => "key or table defined twice"
    | .tooDeep => "too many levels of nesting"
  s!"line {e.line}: {cause}"

end ReadError

structure Stop where
  left : Nat
  cause : Cause

/-- Takes characters from the front of a text of which the length is known. -/
abbrev Reader := ReaderT Nat (StateT (List Char) (Except Stop))

namespace Reader

variable {α : Type}

def stop (cause : Cause) : Reader α := do
  throw ⟨(← get).length, cause⟩

def takeWhile (p : Char → Bool) : Reader (List Char) := do
  let cs ← get
  set (cs.dropWhile p)
  return cs.takeWhile p

def accept (expected : List Char) : Reader Bool := do
  let cs ← get
  if expected.isPrefixOf cs then
    set (cs.drop expected.length)
    return true
  else return false

def expect (expected : List Char) : Reader Unit := do
  if !(← accept expected) then stop .malformed

def ofRecognizer (recognize : Recognizer α) : Reader α := do
  match recognize (← get) with
  | some (a, rest) =>
    set rest
    return a
  | none => stop .malformed

/-- Does `step` until it says that it is done, `fuel` times at most. -/
def loop (step : α → Reader (α × Bool)) : Nat → α → Reader α
  | 0, _ => stop .malformed
  | fuel + 1, a => do
    let (a, done) ← step a
    if done then return a else loop step fuel a

/-- Does `step` until it says that it is done; every time it takes a character. -/
def repeatUntil (step : α → Reader (α × Bool)) (a : α) : Reader α := do
  loop step ((← readThe Nat) + 1) a

/-! ## Blanks, comments and line ends -/

def isBlank (c : Char) : Bool :=
  c == ' ' || c == '\t'

def blanks : Reader Unit := do
  discard <| takeWhile isBlank

/-- Characters of comments and quotes: the tab and what is no control character. -/
def isText (c : Char) : Bool :=
  c == '\t' || (0x20 ≤ c.toNat && c.toNat != 0x7F)

def comment : Reader Bool := do
  if ← accept ['#'] then
    discard <| takeWhile isText
    return true
  else return false

def newline : Reader Bool := do
  if ← accept ['\n'] then return true else accept ['\r', '\n']

/-- Blanks and a comment, up to the end of the line or of the text. -/
def lineEnd : Reader Unit := do
  blanks
  discard comment
  if !(← newline) && !(← get).isEmpty then stop .malformed

def blankLines : Reader Unit :=
  repeatUntil (fun _ => do
    blanks
    return ((), !(← newline))) ()

/-- Blanks, line ends and comments on lines of their own. -/
def space : Reader Unit :=
  repeatUntil (fun _ => do
    blanks
    if ← comment then
      if ← newline then return ((), false) else stop .malformed
    else return ((), !(← newline))) ()

/-! ## Strings -/

def apostrophe : Char := Char.ofNat 0x27

def codePoint (count : Nat) : Reader Char := do
  let cs ← get
  let ds := cs.take count
  if ds.length ≠ count || !ds.all isHexDigit then stop .malformed
  else
    let n := valueOf 16 ds
    if n.isValidChar then
      set (cs.drop count)
      return Char.ofNat n
    else stop .malformed

def escape : Reader Char := do
  match ← get with
  | c :: rest =>
    set rest
    match c with
    | 'b' => return Char.ofNat 8
    | 't' => return '\t'
    | 'n' => return '\n'
    | 'f' => return Char.ofNat 12
    | 'r' => return '\r'
    | '"' => return '"'
    | '\\' => return '\\'
    | 'u' => codePoint 4
    | 'U' => codePoint 8
    | _ => stop .malformed
  | [] => stop .malformed

/-- A quoted string on one line; the opening quote was taken. -/
def lineString (quote : Char) (escapes : Bool) : Reader String := do
  let chars ← repeatUntil (fun (chars : Array Char) => do
    match ← get with
    | c :: rest =>
      if c == quote then
        set rest
        return (chars, true)
      else if escapes && c == '\\' then
        set rest
        return (chars.push (← escape), false)
      else if isText c then
        set rest
        return (chars.push c, false)
      else stop .malformed
    | [] => stop .malformed) #[]
  return String.ofList chars.toList

/-- A backslash at the end of a line joins the next text to what is before it. -/
def joinLines : Reader Bool := do
  let cs ← get
  blanks
  if ← newline then
    blankLines
    return true
  else
    set cs
    return false

/-- A string over several lines; the three opening quotes were taken. Up to two
quotes may stand before the closing ones, and a line break right behind the
opening ones is dropped. -/
def longString (quote : Char) (escapes : Bool) : Reader String := do
  discard newline
  let chars ← repeatUntil (fun (chars : Array Char) => do
    let cs ← get
    let quotes := (cs.takeWhile (· == quote)).length
    if 0 < quotes then
      if quotes < 3 then
        set (cs.drop quotes)
        return (chars ++ Array.replicate quotes quote, false)
      else
        let kept := min (quotes - 3) 2
        set (cs.drop (kept + 3))
        return (chars ++ Array.replicate kept quote, true)
    else if ← newline then return (chars.push '\n', false)
    else
      match cs with
      | c :: rest =>
        if escapes && c == '\\' then
          set rest
          if ← joinLines then return (chars, false)
          else return (chars.push (← escape), false)
        else if isText c then
          set rest
          return (chars.push c, false)
        else stop .malformed
      | [] => stop .malformed) #[]
  return String.ofList chars.toList

/-! ## Keys -/

def isBareKey (c : Char) : Bool :=
  c.isAlphanum || c == '-' || c == '_'

def simpleKey : Reader String := do
  if ← accept ['"'] then lineString '"' true
  else if ← accept [apostrophe] then lineString apostrophe false
  else
    let cs ← takeWhile isBareKey
    if cs.isEmpty then stop .malformed else return String.ofList cs

def mostLevels : Nat := 79

/-- Keys joined by points: all but the last, and the last. -/
def key : Reader (List String × String) := do
  let keys ← repeatUntil (fun (keys : Array String) => do
    blanks
    let k ← simpleKey
    blanks
    return (keys.push k, !(← accept ['.']))) #[]
  if mostLevels < keys.size then stop .tooDeep
  else return (keys.toList.dropLast, keys.back?.getD "")

/-! ## Values -/

/-- Elements between brackets; the opening one was taken. -/
def elements (value : Reader Node) : Reader Node := do
  space
  if ← accept [']'] then return .array []
  else
    let nodes ← repeatUntil (fun (nodes : Array Node) => do
      let node ← value
      space
      let comma ← accept [',']
      if comma then space
      if ← accept [']'] then return (nodes.push node, true)
      else if comma then return (nodes.push node, false)
      else stop .malformed) #[]
    return .array nodes.toList

def members (value : Reader Node) : Reader Node := do
  blanks
  if ← accept ['\x7d'] then return .table .closed []
  else
    let entries ← repeatUntil (fun (entries : Entries) => do
      let (path, last) ← key
      expect ['=']
      blanks
      let node ← value
      blanks
      match entries.assign path last node .closed with
      | none => stop .conflict
      | some entries =>
        if ← accept ['\x7d'] then return (entries, true)
        else
          expect [',']
          return (entries, false)) []
    return .table .closed entries

/-- A value, where `array` and `table` read what follows an opening bracket. -/
def valueWith (array table : Reader Node) : Reader Node := do
  let cs ← get
  if ← accept ['"', '"', '"'] then return .string (← longString '"' true)
  else if ← accept ['"'] then return .string (← lineString '"' true)
  else if ← accept [apostrophe, apostrophe, apostrophe] then
    return .string (← longString apostrophe false)
  else if ← accept [apostrophe] then return .string (← lineString apostrophe false)
  else if ← accept "true".toList then return .boolean true
  else if ← accept "false".toList then return .boolean false
  else if ← accept ['['] then array
  else if ← accept ['\x7b'] then table
  else
    set cs
    ofRecognizer number

/-- A value with at most the given number of brackets around another. -/
def value : Nat → Reader Node
  | 0 => valueWith (stop .tooDeep) (stop .tooDeep)
  | levels + 1 => valueWith (elements (value levels)) (members (value levels))

/-! ## Statements -/

inductive Statement
  | assign (path : List String) (key : String) (value : Node)
  | table (path : List String) (key : String)
  | item (path : List String) (key : String)

def statement : Reader Statement := do
  if ← accept ['[', '['] then
    let (path, last) ← key
    expect [']', ']']
    lineEnd
    return .item path last
  else if ← accept ['['] then
    let (path, last) ← key
    expect [']']
    lineEnd
    return .table path last
  else
    let (path, last) ← key
    expect ['=']
    blanks
    let node ← value mostLevels
    lineEnd
    return .assign path last node

end Reader

/-! ## Documents -/

open Reader (Statement)

/-- A document under way: its entries, and the table that assignments go to. -/
structure Draft where
  entries : Entries
  current : List String

namespace Draft

def empty : Draft := ⟨[], []⟩

def add? (d : Draft) : Statement → Option Draft
  | .assign path key value => do
    let entries ←
      Entries.updateAt false (Entries.assign path key value) d.current .header d.entries
    return { d with entries }
  | .table path key => do
    return ⟨← d.entries.openTable path key, path ++ [key]⟩
  | .item path key => do
    return ⟨← d.entries.openItem path key, path ++ [key]⟩

end Draft

def Reader.emptyLines : Reader Unit :=
  repeatUntil (fun _ => do
    blanks
    if ← comment then
      if (← newline) || (← get).isEmpty then return ((), false) else stop .malformed
    else return ((), !(← newline))) ()

def Reader.document : Reader Draft := do
  discard <| accept [Char.ofNat 0xFEFF]
  repeatUntil (fun (d : Draft) => do
    emptyLines
    if (← get).isEmpty then return (d, true)
    else
      match d.add? (← statement) with
      | some d => return (d, false)
      | none => stop .conflict) Draft.empty

def read? (text : String) : Except ReadError Entries :=
  let cs := text.toList
  match (Reader.document.run cs.length).run cs with
  | .ok (draft, _) => .ok draft.entries
  | .error stop =>
    let before := cs.take (cs.length - stop.left)
    .error ⟨(before.filter (· == '\n')).length + 1, stop.cause⟩

end GpuTrace.Toml
