import ContextualQuery.Text.Line

/-!
# JSON trees

The part of JSON in which queries are shown: strings, arrays and objects.  The fields of an object
are kept in the order in which they are written.
-/

namespace ContextualQuery

inductive Json
  | string (value : String)
  | array (items : List Json)
  | object (fields : List (String × Json))

namespace Json

def hex4 (n : Nat) : List Char :=
  let digits := Nat.toDigits 16 n
  List.replicate (4 - digits.length) '0' ++ digits

/-- One character between the quotes of a JSON string. -/
def escape (c : Char) : List Char :=
  if c = '"' then ['\\', '"']
  else if c = '\\' then ['\\', '\\']
  else if c = '\x08' then ['\\', 'b']
  else if c = '\t' then ['\\', 't']
  else if c = '\n' then ['\\', 'n']
  else if c = '\x0c' then ['\\', 'f']
  else if c = '\r' then ['\\', 'r']
  else if c.toNat < 0x20 then '\\' :: 'u' :: hex4 c.toNat
  else [c]

def quoted (text : String) : String :=
  String.ofList ('"' :: text.toList.flatMap escape ++ ['"'])

/-- What separates an entry from those behind it. -/
def separator {α : Type} (others : List α) : String := if others.isEmpty then "" else ","

mutual

/-- The parts of a value without any blanks, in front of further parts. -/
def partsBefore : Json → List String → List String
  | .string value, rest => quoted value :: rest
  | .array items, rest => "[" :: itemPartsBefore items ("]" :: rest)
  | .object fields, rest => "\x7b" :: fieldPartsBefore fields ("\x7d" :: rest)

/-- The parts of the items of an array, in front of further parts. -/
def itemPartsBefore : List Json → List String → List String
  | [], rest => rest
  | item :: others, rest =>
    item.partsBefore (separator others :: itemPartsBefore others rest)

/-- The parts of the fields of an object, in front of further parts. -/
def fieldPartsBefore : List (String × Json) → List String → List String
  | [], rest => rest
  | (name, value) :: others, rest =>
    quoted name :: ":" ::
      value.partsBefore (separator others :: fieldPartsBefore others rest)

end

/-- The value on one line without any blanks. -/
def compact (value : Json) : String := String.join (value.partsBefore [])

mutual

/-- The lines of a value at a level, in front of further lines.  The first line begins with `lead`
and the last one ends in `trail`; nothing between brackets stays on its line. -/
def linesBefore (level : Nat) (lead trail : String) : Json → List Line → List Line
  | .string value, rest => ⟨level, lead ++ quoted value ++ trail⟩ :: rest
  | .array items, rest =>
    if items.isEmpty then ⟨level, lead ++ "[]" ++ trail⟩ :: rest
    else ⟨level, lead ++ "["⟩ ::
      itemLinesBefore (level + 1) items (⟨level, "]" ++ trail⟩ :: rest)
  | .object fields, rest =>
    if fields.isEmpty then ⟨level, lead ++ "\x7b\x7d" ++ trail⟩ :: rest
    else ⟨level, lead ++ "\x7b"⟩ ::
      fieldLinesBefore (level + 1) fields (⟨level, "\x7d" ++ trail⟩ :: rest)

/-- The lines of the items of an array, in front of further lines. -/
def itemLinesBefore (level : Nat) : List Json → List Line → List Line
  | [], rest => rest
  | item :: others, rest =>
    item.linesBefore level "" (separator others) (itemLinesBefore level others rest)

/-- The lines of the fields of an object, in front of further lines. -/
def fieldLinesBefore (level : Nat) : List (String × Json) → List Line → List Line
  | [], rest => rest
  | (name, value) :: others, rest =>
    value.linesBefore level (quoted name ++ ": ") (separator others)
      (fieldLinesBefore level others rest)

end

/-- The value over several lines, each level two spaces further in. -/
def pretty (value : Json) : String :=
  "\n".intercalate ((value.linesBefore 0 "" "" []).map (Line.text 2))

end Json
end ContextualQuery
