import GpuTrace.Text.CaseTables

/-!
# Lower case

Characters are mapped one by one, except that a capital sigma depends on where
it stands: at the end of a word it becomes the final form. It ends a word if,
looking through case-ignorable characters, a cased character comes before it
and none comes after.
-/

namespace GpuTrace.Text

def CaseRun.covers (r : CaseRun) (n : Nat) : Bool :=
  r.first ≤ n && n ≤ r.last && (n - r.first) % r.step == 0

/-- Lower-case form of a character that needs no context. -/
def lowerChar (c : Char) : List Char :=
  if c.toNat = lowerPair.1 then lowerPair.2.map Char.ofNat
  else
    match lowerRuns.find? (·.covers c.toNat) with
    | some r => [Char.ofNat (c.toNat + r.shift).toNat]
    | none => [c]

def isCased (c : Char) : Bool :=
  inSpans casedSpans c.toNat

def isCaseIgnorable (c : Char) : Bool :=
  inSpans caseIgnorableSpans c.toNat

/-- Whether the first character that is not case-ignorable is cased. -/
def meetsCased (cs : List Char) : Bool :=
  (cs.dropWhile isCaseIgnorable).head?.any isCased

def capitalSigma : Char := Char.ofNat 0x3A3

/-- Lower case of `rest`, where `before` holds the characters in front of it,
nearest first. -/
def lowerFrom (before : List Char) : List Char → List Char
  | [] => []
  | c :: rest =>
    let lowered :=
      if c = capitalSigma then
        [Char.ofNat (if meetsCased before && !meetsCased rest then 0x3C2 else 0x3C3)]
      else lowerChar c
    lowered ++ lowerFrom (c :: before) rest

def lowercase (s : String) : String :=
  String.ofList (lowerFrom [] s.toList)

end GpuTrace.Text
