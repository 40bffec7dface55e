import ContextualQuery.Query
import ContextualQuery.Text.Line
import ContextualQuery.Text.Literal

/-!
# Record dumps

Every field of a value with its name, one to a line.  Groups open a bracket, put each entry on its
own line four spaces further in with a comma behind it, and close the bracket; a group without
entries stays on its line.
-/

namespace ContextualQuery

inductive Dump
  | atom (text : String)
  /-- Entries between brackets, each with a label, which may be empty. -/
  | group (opening : String) (entries : List (String × Dump)) (closing : String)

namespace Dump

mutual

/-- The lines of a value at a level, in front of further lines.  The first line begins with `lead`
and the last one ends in `trail`. -/
def linesBefore (level : Nat) (lead trail : String) : Dump → List Line → List Line
  | .atom text, rest => ⟨level, lead ++ text ++ trail⟩ :: rest
  | .group opening entries closing, rest =>
    if entries.isEmpty then ⟨level, lead ++ opening ++ closing ++ trail⟩ :: rest
    else ⟨level, lead ++ opening⟩ ::
      entryLinesBefore (level + 1) entries (⟨level, closing ++ trail⟩ :: rest)

/-- The lines of entries at a level, in front of further lines. -/
def entryLinesBefore (level : Nat) : List (String × Dump) → List Line → List Line
  | [], rest => rest
  | (label, value) :: others, rest =>
    value.linesBefore level label "," (entryLinesBefore level others rest)

end

/-- The text of a value, each level four spaces further in. -/
def text (value : Dump) : String :=
  "\n".intercalate ((value.linesBefore 0 "" "" []).map (Line.text 4))

def string (text : String) : Dump := .atom (literal text)

def list (items : List Dump) : Dump := .group "[" (items.map fun item => ("", item)) "]"

/-- A record with a name and named fields. -/
def record (name : String) (fields : List (String × Dump)) : Dump :=
  .group (name ++ " \x7b") (fields.map fun (label, value) => (label ++ ": ", value)) "\x7d"

def wrapped (name : String) (value : Dump) : Dump := .group (name ++ "(") [("", value)] ")"

end Dump

open Dump

def Modifier.dump (modifier : Modifier) : Dump :=
  record "Modifier" [("name", string modifier.name), ("relation", string modifier.relation),
    ("value", string modifier.value)]

def Prefix.dump (declared : Prefix) : Dump :=
  record "Prefix" [("name", string declared.name), ("uri", string declared.uri)]

def SearchClause.dump (search : SearchClause) : Dump :=
  record "SearchClause" [("index", string search.index), ("relation", string search.relation),
    ("modifiers", list (search.modifiers.map Modifier.dump)), ("term", string search.term)]

def Operator.dump : Operator → Dump
  | .and => .atom "And"
  | .or => .atom "Or"
  | .not => .atom "Not"
  | .prox => .atom "Prox"

/-- A clause: its declarations and what it consists of. -/
def Clause.dump : Clause → Dump
  | .search prefixes clause => framed prefixes (wrapped "Search" clause.dump)
  | .boolean prefixes left operator modifiers right =>
    framed prefixes <| wrapped "Boolean" <| record "BoolClause" [("left", left.dump),
      ("operator", operator.dump), ("modifiers", list (modifiers.map Modifier.dump)),
      ("right", right.dump)]
  | .matchAll prefixes => framed prefixes (.atom "MatchAll")
where
  /-- The declarations of a clause beside its content. -/
  framed (prefixes : List Prefix) (kind : Dump) : Dump :=
    record "Clause" [("prefixes", list (prefixes.map Prefix.dump)), ("kind", kind)]

def SortKey.dump (key : SortKey) : Dump :=
  record "Sort" [("index", string key.index),
    ("modifiers", list (key.modifiers.map Modifier.dump))]

def Query.dump (query : Query) : Dump :=
  record "Query" [("clause", query.clause.dump),
    ("sort_spec", list (query.sortKeys.map SortKey.dump))]

end ContextualQuery
