import GpuTrace.Toml.Node

/-!
# TOML numbers, dates and times

Recognizers on lists of characters. Each answers what it read and the rest, and
nothing if the characters do not begin with what it reads. Dates are tried
before floating point numbers and these before integers, so that the longest
form wins.
-/

namespace GpuTrace.Toml

/-- Reads a form from the front of a text. -/
abbrev Recognizer (α : Type) := List Char → Option (α × List Char)

/-- Digits after the first one, with single underscores between digits. -/
def moreDigits (isDigit : Char → Bool) : List Char → List Char × List Char
  | '_' :: c :: rest =>
    if isDigit c then
      let (ds, left) := moreDigits isDigit rest
      (c :: ds, left)
    else ([], '_' :: c :: rest)
  | c :: rest =>
    if isDigit c then
      let (ds, left) := moreDigits isDigit rest
      (c :: ds, left)
    else ([], c :: rest)
  | [] => ([], [])

def digits (isDigit : Char → Bool) : Recognizer (List Char)
  | c :: rest =>
    if isDigit c then
      let (ds, left) := moreDigits isDigit rest
      some (c :: ds, left)
    else none
  | [] => none

/-- An optional sign; true if it is a minus. -/
def sign : List Char → Bool × List Char
  | '+' :: rest => (false, rest)
  | '-' :: rest => (true, rest)
  | cs => (false, cs)

def wholeDigits : Recognizer (List Char)
  | '0' :: rest => some (['0'], rest)
  | cs => digits Char.isDigit cs

def hexValue (c : Char) : Nat :=
  if c.isDigit then c.toNat - '0'.toNat
  else if 'a' ≤ c ∧ c ≤ 'f' then c.toNat - 'a'.toNat + 10
  else c.toNat - 'A'.toNat + 10

def isHexDigit (c : Char) : Bool :=
  c.isDigit || ('a' ≤ c && c ≤ 'f') || ('A' ≤ c && c ≤ 'F')

def isOctalDigit (c : Char) : Bool :=
  '0' ≤ c && c ≤ '7'

def isBinaryDigit (c : Char) : Bool :=
  c == '0' || c == '1'

def valueOf (base : Nat) (ds : List Char) : Nat :=
  ds.foldl (fun n c => n * base + hexValue c) 0

/-- Integers must fit in 64 bits with a sign. -/
def signed64? (n : Int) : Option Int :=
  if -9223372036854775808 ≤ n ∧ n ≤ 9223372036854775807 then some n else none

def integer : Recognizer Node
  | '0' :: 'x' :: rest => based isHexDigit 16 rest
  | '0' :: 'o' :: rest => based isOctalDigit 8 rest
  | '0' :: 'b' :: rest => based isBinaryDigit 2 rest
  | cs => do
    let (negative, cs) := sign cs
    let (ds, rest) ← wholeDigits cs
    let n : Int := valueOf 10 ds
    let n ← signed64? (if negative then -n else n)
    return (.integer n, rest)
where
  based (isDigit : Char → Bool) (base : Nat) : Recognizer Node := fun cs => do
    let (ds, rest) ← digits isDigit cs
    let n ← signed64? (valueOf base ds : Nat)
    return (.integer n, rest)

def exponent : Recognizer Int
  | c :: rest =>
    if c == 'e' || c == 'E' then do
      let (negative, cs) := sign rest
      let (ds, left) ← digits Char.isDigit cs
      let n : Int := valueOf 10 ds
      return (if negative then -n else n, left)
    else none
  | [] => none

/-- Whether `mantissa · 10 ^ e` rounds to more than the largest double. -/
def overflows (mantissa : Nat) (e : Int) : Bool :=
  let size : Int := (Nat.toDigits 10 mantissa).length + e
  if mantissa = 0 then false
  else if size < 300 then false
  else if 400 < size then true
  else
    (Nat.pow 2 1024 - Nat.pow 2 970) * Nat.pow 10 (-e).toNat ≤ mantissa * Nat.pow 10 e.toNat

/-- A number with a fraction, an exponent or both. Positive numbers must not
overflow. -/
def float : Recognizer Node := fun cs => do
  let (negative, body) := sign cs
  let (whole, rest) ← wholeDigits body
  let (fraction, rest) ←
    match rest with
    | '.' :: more => digits Char.isDigit more
    | _ => some ([], rest)
  let (e, left) ←
    match exponent rest with
    | some found => some found
    | none => if fraction.isEmpty then none else some (0, rest)
  if !negative && overflows (valueOf 10 (whole ++ fraction)) (e - fraction.length) then none
  else return (.float (String.ofList (cs.take (cs.length - left.length))), left)

def specialFloat : Recognizer Node := fun cs =>
  match sign cs with
  | (_, 'i' :: 'n' :: 'f' :: rest) => some (.float "inf", rest)
  | (_, 'n' :: 'a' :: 'n' :: rest) => some (.float "nan", rest)
  | _ => none

def fixedDigits (n : Nat) : Recognizer Nat := fun cs =>
  let ds := cs.take n
  if ds.length = n ∧ ds.all Char.isDigit then some (valueOf 10 ds, cs.drop n) else none

def twoDigits (least most : Nat) : Recognizer Nat := fun cs => do
  let (n, rest) ← fixedDigits 2 cs
  if least ≤ n ∧ n ≤ most then return (n, rest) else none

def literal (c : Char) : Recognizer Unit
  | d :: rest => if d == c then some ((), rest) else none
  | [] => none

def daysIn (year month : Nat) : Nat :=
  if month = 2 then
    if year % 4 = 0 ∧ (year % 100 ≠ 0 ∨ year % 400 = 0) then 29 else 28
  else if month = 4 ∨ month = 6 ∨ month = 9 ∨ month = 11 then 30
  else 31

def date : Recognizer Unit := fun cs => do
  let (year, cs) ← fixedDigits 4 cs
  let (_, cs) ← literal '-' cs
  let (month, cs) ← twoDigits 1 12 cs
  let (_, cs) ← literal '-' cs
  let (_, cs) ← twoDigits 1 (daysIn year month) cs
  return ((), cs)

def secondFraction : List Char → List Char
  | '.' :: c :: rest => if c.isDigit then rest.dropWhile Char.isDigit else '.' :: c :: rest
  | cs => cs

/-- Hours, minutes and seconds; a minute may have a leap second. -/
def time : Recognizer Unit := fun cs => do
  let (_, cs) ← twoDigits 0 23 cs
  let (_, cs) ← literal ':' cs
  let (_, cs) ← twoDigits 0 59 cs
  let (_, cs) ← literal ':' cs
  let (_, cs) ← twoDigits 0 60 cs
  return ((), secondFraction cs)

def offset : Recognizer Unit
  | c :: rest =>
    if c == 'Z' || c == 'z' then some ((), rest)
    else if c == '+' || c == '-' then do
      let (_, cs) ← twoDigits 0 23 rest
      let (_, cs) ← literal ':' cs
      let (_, cs) ← twoDigits 0 59 cs
      return ((), cs)
    else none
  | [] => none

def timeAfterDate : Recognizer Unit
  | c :: rest =>
    if c == 'T' || c == 't' || c == ' ' then do
      let (_, cs) ← time rest
      match offset cs with
      | some found => return found
      | none => return ((), cs)
    else none
  | [] => none

def moment : Recognizer Node := fun cs => do
  let left ←
    match date cs with
    | some (_, rest) =>
      match timeAfterDate rest with
      | some (_, left) => some left
      | none => some rest
    | none => (·.2) <$> time cs
  return (.moment (String.ofList (cs.take (cs.length - left.length))), left)

def number : Recognizer Node := fun cs =>
  (moment cs).or ((float cs).or ((specialFloat cs).or (integer cs)))

end GpuTrace.Toml
