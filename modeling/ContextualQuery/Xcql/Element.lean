import ContextualQuery.Text.Line

/-!
# XML elements

Elements that hold either text or other elements, written with one tag or one text element to a
line.  Markup characters in text are escaped, and characters that XML 1.0 cannot carry are
replaced.
-/

namespace ContextualQuery

inductive Element
  | leaf (tag content : String)
  | branch (tag : String) (attributes : List (String × String)) (children : List Element)

namespace Element

/-- Whether XML 1.0 cannot carry the character. -/
def isForbidden (c : Char) : Bool :=
  (c.toNat < 0x20 && c != '\t' && c != '\n' && c != '\r') || c.toNat == 0xFFFE ||
    c.toNat == 0xFFFF

def escape (c : Char) : List Char :=
  if c = '&' then "&amp;".toList
  else if c = '<' then "&lt;".toList
  else if c = '>' then "&gt;".toList
  else if isForbidden c then ['\uFFFD']
  else [c]

/-- Text between two tags. -/
def escaped (content : String) : String := String.ofList (content.toList.flatMap escape)

def attributeText (attributes : List (String × String)) : String :=
  String.join (attributes.map fun (name, value) => " " ++ name ++ "=\"" ++ value ++ "\"")

def opening (tag : String) (attributes : List (String × String)) : String :=
  "<" ++ tag ++ attributeText attributes ++ ">"

def closing (tag : String) : String := "</" ++ tag ++ ">"

mutual

/-- The lines of an element that lies `level` elements deep, in front of further lines. -/
def linesBefore (level : Nat) : Element → List Line → List Line
  | .leaf tag content, rest =>
    ⟨level, opening tag [] ++ escaped content ++ closing tag⟩ :: rest
  | .branch tag attributes children, rest =>
    ⟨level, opening tag attributes⟩ ::
      listLinesBefore (level + 1) children (⟨level, closing tag⟩ :: rest)

/-- The lines of elements that stand one behind the other, in front of further lines. -/
def listLinesBefore (level : Nat) : List Element → List Line → List Line
  | [], rest => rest
  | element :: others, rest => element.linesBefore level (listLinesBefore level others rest)

end

/-- The lines of an element that lies in no other. -/
def lines (element : Element) : List Line := element.linesBefore 0 []

/-- The text of an element that lies in no other, each level `step` spaces further in. -/
def render (step : Nat) (element : Element) : String :=
  String.join (element.lines.map fun line => line.text step ++ "\n")

end Element
end ContextualQuery
