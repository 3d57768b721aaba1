import GpuTrace.Decimal.Layout

/-!
# JSON texts

Records are written as JSON either on one line or indented by two spaces per
level. Strings show every character raw except the quote, the backslash and the
control characters; empty arrays and objects stay on one line. A floating point
number has the fewest digits that read back, with a fraction if it is written
positionally, and becomes `null` if it is not finite.
-/

namespace GpuTrace

/-- A JSON value; the members of an object keep their order. -/
inductive Json
  | null
  | bool (b : Bool)
  | natural (n : Nat)
  /-- Double precision, by its bits. -/
  | double (bits : UInt64)
  | string (s : String)
  | array (elements : List Json)
  | object (members : List (String × Json))

namespace Json

/-- Positional from `10 ^ -5` up to below `10 ^ 16`, and a sign on every exponent. -/
def numberLayout : Decimal.Layout where
  tie := .toEven
  positional := fun e => -5 ≤ e && e < 16
  keepsFraction := true
  signsExponent := true

def doubleText (bits : UInt64) : String :=
  match Decimal.double.decode bits.toNat with
  | .finite negative x => numberLayout.text (.finite negative x)
  | _ => "null"

/-- A code unit below 256 with four hexadecimal digits. -/
def escapeControl (n : Nat) : List Char :=
  ['\\', 'u', '0', '0', Nat.digitChar (n / 16), Nat.digitChar (n % 16)]

def escapeChar (c : Char) : List Char :=
  if c = '"' then ['\\', '"']
  else if c = '\\' then ['\\', '\\']
  else if c.toNat = 0x8 then ['\\', 'b']
  else if c.toNat = 0x9 then ['\\', 't']
  else if c.toNat = 0xA then ['\\', 'n']
  else if c.toNat = 0xC then ['\\', 'f']
  else if c.toNat = 0xD then ['\\', 'r']
  else if c.toNat < 0x20 then escapeControl c.toNat
  else [c]

def stringText (s : String) : String :=
  String.ofList ('"' :: s.toList.flatMap escapeChar ++ ['"'])

mutual

/-- The value on one line, without blanks. -/
def compact : Json → String
  | .null => "null"
  | .bool b => if b then "true" else "false"
  | .natural n => toString n
  | .double bits => doubleText bits
  | .string s => stringText s
  | .array elements => "[" ++ String.intercalate "," (compactAll elements) ++ "]"
  | .object members => "\x7b" ++ String.intercalate "," (compactMembers members) ++ "\x7d"

def compactAll : List Json → List String
  | [] => []
  | j :: js => compact j :: compactAll js

def compactMembers : List (String × Json) → List String
  | [] => []
  | (name, j) :: rest => (stringText name ++ ":" ++ compact j) :: compactMembers rest

end

/-- A line break and two spaces for each level. -/
def lineAt (level : Nat) : String :=
  "\n" ++ String.ofList (List.replicate (2 * level) ' ')

def enclose (left right : String) (level : Nat) (items : List String) : String :=
  if items.isEmpty then left ++ right
  else
    left ++ lineAt (level + 1) ++ String.intercalate ("," ++ lineAt (level + 1)) items ++
      lineAt level ++ right

mutual

/-- The value over several lines; `level` counts the brackets around it. -/
def prettyAt (level : Nat) : Json → String
  | .array elements => enclose "[" "]" level (prettyAll (level + 1) elements)
  | .object members => enclose "\x7b" "\x7d" level (prettyMembers (level + 1) members)
  | .null => "null"
  | .bool b => if b then "true" else "false"
  | .natural n => toString n
  | .double bits => doubleText bits
  | .string s => stringText s

def prettyAll (level : Nat) : List Json → List String
  | [] => []
  | j :: js => prettyAt level j :: prettyAll level js

def prettyMembers (level : Nat) : List (String × Json) → List String
  | [] => []
  | (name, j) :: rest => (stringText name ++ ": " ++ prettyAt level j) :: prettyMembers level rest

end

def pretty (j : Json) : String :=
  prettyAt 0 j

end Json

end GpuTrace
