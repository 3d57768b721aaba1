import GpuTrace.Text.CodePoints
import GpuTrace.Text.EscapeTable
import GpuTrace.Handle

/-!
# Quoted text in messages

A text from outside is shown between double quotes with everything escaped that
would not be visible: the quote and the backslash by a backslash, five control
characters by a letter, and every other code point of the escape table by its
number in braces. Bytes are shown as the text that they are in UTF-8.
-/

namespace GpuTrace.Text

/-- `u` and the code point in braces, without padding. -/
def escapeNumber (n : Nat) : List Char :=
  ['\\', 'u', '\x7b'] ++ Nat.toDigits 16 n ++ ['\x7d']

def escapeChar (c : Char) : List Char :=
  if c = '"' then ['\\', '"']
  else if c = '\\' then ['\\', '\\']
  else if c = '\t' then ['\\', 't']
  else if c = '\n' then ['\\', 'n']
  else if c = '\r' then ['\\', 'r']
  else if c.toNat = 0 then ['\\', '0']
  else if inSpans escapedSpans c.toNat then escapeNumber c.toNat
  else [c]

def quoted (s : String) : String :=
  String.ofList ('"' :: s.toList.flatMap escapeChar ++ ['"'])

/-! ## Bytes -/

def firstChar? (bytes : List UInt8) : Option Char :=
  (bytes.take 4).toByteArray.utf8DecodeChar? 0

def escapeByte (b : UInt8) : List Char :=
  let ds := (Nat.toDigits 16 b.toNat).map Char.toUpper
  ['\\', 'x'] ++ List.replicate (2 - ds.length) '0' ++ ds

/-- Bytes as they stand between quotes, behind the first `skipped` of them, which
belong to a character before. Bytes that are no UTF-8 are written by number. -/
def escapeBytes : Nat → List UInt8 → List Char
  | _, [] => []
  | skipped + 1, _ :: bytes => escapeBytes skipped bytes
  | 0, b :: bytes =>
    match firstChar? (b :: bytes) with
    | some c => escapeChar c ++ escapeBytes (c.utf8Size - 1) bytes
    | none => escapeByte b ++ escapeBytes 0 bytes

def quotedBytes (bytes : List UInt8) : String :=
  String.ofList ('"' :: escapeBytes 0 bytes ++ ['"'])

end GpuTrace.Text
