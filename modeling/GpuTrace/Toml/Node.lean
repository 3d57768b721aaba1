/-!
# TOML documents as trees

A table remembers how it came to be, because that decides what may still be
added to it: a table under a header of its own is closed for dotted keys, one
that only stands on the way to another header may still get its own header, one
made by dotted keys takes more dotted keys, and an inline table takes nothing.

`assign`, `openTable` and `openItem` are the three ways in which a document
grows; each answers nothing if the document does not allow it.
-/

namespace GpuTrace.Toml

inductive TableKind
  /-- By a header, or as the document itself. -/
  | header
  /-- On the way to the table of another header. -/
  | passage
  /-- On the way to the value of a dotted key. -/
  | dotted
  /-- Between braces. -/
  | closed
  deriving DecidableEq

inductive Node
  | string (s : String)
  | boolean (b : Bool)
  | integer (n : Int)
  /-- A floating point number, as written. -/
  | float (literal : String)
  /-- A date, a time or both, as written. -/
  | moment (literal : String)
  | array (elements : List Node)
  | table (kind : TableKind) (entries : List (String × Node))
  /-- Tables under one header, in order. -/
  | tables (items : List (List (String × Node)))

abbrev Entries := List (String × Node)

namespace Entries

def get? (es : Entries) (key : String) : Option Node :=
  es.lookup key

def replace (es : Entries) (key : String) (node : Node) : Entries :=
  es.map fun e => if e.1 == key then (key, node) else e

/-- Applies `f` to the table at the end of a path and rebuilds the tables on the
way. Missing tables are made. A path of dotted keys enters only tables without a
header of their own. -/
def updateAt (dots : Bool) (f : TableKind → Entries → Option Entries) :
    List String → TableKind → Entries → Option Entries
  | [], kind, es => f kind es
  | key :: path, _, es =>
    match es.get? key with
    | none => do
      let kind := if dots then TableKind.dotted else TableKind.passage
      let inner ← updateAt dots f path kind []
      return es ++ [(key, .table kind inner)]
    | some (.table kind inner) =>
      if kind == .closed || (dots && kind == .header) then none
      else do
        let inner' ← updateAt dots f path kind inner
        return es.replace key (.table kind inner')
    | some (.tables items) => do
      let last ← items.getLast?
      let last' ← updateAt dots f path .header last
      return es.replace key (.tables (items.dropLast ++ [last']))
    | some _ => none

/-- Adds a value under a dotted key. Dotted keys end in a table that dotted keys
made, and the last key must be new. -/
def assign (path : List String) (key : String) (value : Node) (kind : TableKind) (es : Entries) :
    Option Entries :=
  let add (kind : TableKind) (es : Entries) : Option Entries :=
    if (kind == .dotted) == path.isEmpty then none
    else if (es.get? key).isSome then none
    else some (es ++ [(key, value)])
  updateAt true add path kind es

def openTable (path : List String) (key : String) (es : Entries) : Option Entries :=
  let add (_ : TableKind) (es : Entries) : Option Entries :=
    match es.get? key with
    | none => some (es ++ [(key, .table .header [])])
    | some (.table .passage inner) => some (es.replace key (.table .header inner))
    | some _ => none
  updateAt false add path .header es

def openItem (path : List String) (key : String) (es : Entries) : Option Entries :=
  let add (_ : TableKind) (es : Entries) : Option Entries :=
    match es.get? key with
    | none => some (es ++ [(key, .tables [[]])])
    | some (.tables items) => some (es.replace key (.tables (items ++ [[]])))
    | some _ => none
  updateAt false add path .header es

end Entries

end GpuTrace.Toml
