import ContextualQuery.Xcql.Element

/-!
# Reading markup

A reader of XML documents that consist of elements and text alone.  The only references that it
decodes are those to markup characters; attribute values stand for themselves, and so do the ends
of lines.  It rejects whatever else it meets, and every document whose tags are not properly nested.
Blank text beside an element is layout and leaves nothing behind, but for each opening tag the
reader notes what stands in front of it on its line.
-/

namespace ContextualQuery
namespace Markup

/-- What a document holds. -/
inductive Node
  | text (content : String)
  | element (name : String) (attributes : List (String × String)) (content : List Node)

/-- Where an opening tag stands. -/
structure Opening where
  /-- The number of elements around the one that is opened. -/
  level : Nat
  /-- What stands in front of the tag on its line. -/
  margin : List Char

/-! ## Characters -/

/-- The characters that XML 1.0 can carry. -/
def isChar (c : Char) : Bool :=
  c == '\t' || c == '\n' || c == '\r' || (0x20 ≤ c.toNat && c.toNat ≤ 0xD7FF) ||
    (0xE000 ≤ c.toNat && c.toNat ≤ 0xFFFD) || 0x10000 ≤ c.toNat

def isSpace (c : Char) : Bool := c == ' ' || c == '\t' || c == '\n' || c == '\r'

/-- Text between two tags, each reference decoded. -/
def decode? : List Char → Option (List Char)
  | [] => some []
  | '&' :: 'a' :: 'm' :: 'p' :: ';' :: rest => (decode? rest).map ('&' :: ·)
  | '&' :: 'l' :: 't' :: ';' :: rest => (decode? rest).map ('<' :: ·)
  | '&' :: 'g' :: 't' :: ';' :: rest => (decode? rest).map ('>' :: ·)
  | c :: rest => if c != '&' && isChar c then (decode? rest).map (c :: ·) else none

/-- The character that a document has for one of a text: a replacement for those below U+0020 but
tab, line feed and carriage return, and for U+FFFE and U+FFFF. -/
def shown (c : Char) : Char :=
  if (c.toNat ≤ 0x1F ∧ c ∉ ['\t', '\n', '\r']) ∨ c.toNat = 0xFFFE ∨ c.toNat = 0xFFFF then '\uFFFD'
  else c

/-- A character that is no markup is written as it is shown. -/
theorem escape_eq {c : Char} (plain : ¬(c = '&' ∨ c = '<' ∨ c = '>')) :
    Element.escape c = [shown c] := by
  obtain ⟨noAmpersand, noBracket⟩ := not_or.1 plain
  obtain ⟨noLess, noGreater⟩ := not_or.1 noBracket
  have rejected : Element.isForbidden c = true ↔
      (c.toNat ≤ 0x1F ∧ c ∉ ['\t', '\n', '\r']) ∨ c.toNat = 0xFFFE ∨ c.toNat = 0xFFFF := by
    simp [Element.isForbidden, Nat.lt_succ_iff, and_assoc, or_assoc]
  rw [Element.escape, if_neg noAmpersand, if_neg noLess, if_neg noGreater, shown]
  simp only [rejected]
  split <;> rfl

/-- Whatever is shown can be carried. -/
theorem isChar_shown (c : Char) : isChar (shown c) = true := by
  have valid : c.toNat < 0xD800 ∨ 0xDFFF < c.toNat ∧ c.toNat < 0x110000 := c.valid
  have tab : c = '\t' ↔ c.toNat = 0x9 := Char.toNat_inj.symm
  have lineFeed : c = '\n' ↔ c.toNat = 0xA := Char.toNat_inj.symm
  have carriageReturn : c = '\r' ↔ c.toNat = 0xD := Char.toNat_inj.symm
  rw [shown]
  split
  · rfl
  · next carried =>
    simp only [List.mem_cons, List.not_mem_nil, or_false, tab, lineFeed, carriageReturn] at carried
    simp only [isChar, Bool.or_eq_true, Bool.and_eq_true, beq_iff_eq, decide_eq_true_eq, tab,
      lineFeed, carriageReturn]
    omega

/-- Only a character itself is shown as one that stands for itself. -/
theorem eq_of_shown_eq {c d : Char} (same : shown c = d) (other : d ≠ '\uFFFD') : c = d := by
  rw [shown] at same
  split at same
  · exact absurd same.symm other
  · exact same

theorem decode?_cons {c : Char} (noReference : c ≠ '&') (isText : isChar c = true)
    (rest : List Char) : decode? (c :: rest) = (decode? rest).map (c :: ·) := by
  rw [decode?]
  · simp [noReference, isText]
  all_goals exact fun _ reference _ => noReference reference

/-- Escaping a character is undone, up to the characters that are replaced. -/
theorem decode?_escape (c : Char) (rest : List Char) :
    decode? (Element.escape c ++ rest) = (decode? rest).map (shown c :: ·) := by
  by_cases markup : c = '&' ∨ c = '<' ∨ c = '>'
  · obtain rfl | rfl | rfl := markup <;> exact decode?.eq_def _
  · have noReference : shown c ≠ '&' :=
      fun same => markup (.inl (eq_of_shown_eq same (by decide)))
    rw [escape_eq markup, List.singleton_append, decode?_cons noReference (isChar_shown c)]

theorem decode?_escaped (text : List Char) :
    decode? (text.flatMap Element.escape) = some (text.map shown) := by
  induction text with
  | nil => rfl
  | cons c rest ih => rw [List.flatMap_cons, decode?_escape, ih, Option.map_some, List.map_cons]

/-- No bracket of a tag stands in escaped text. -/
theorem noBracket_escape {c d : Char} (member : d ∈ Element.escape c) : d ≠ '<' ∧ d ≠ '>' := by
  by_cases markup : c = '&' ∨ c = '<' ∨ c = '>'
  · have clean : (Element.escape c).all (fun d => d != '<' && d != '>') = true := by
      obtain rfl | rfl | rfl := markup <;> rfl
    simpa using List.all_eq_true.1 clean d member
  · rw [escape_eq markup, List.mem_singleton] at member
    subst member
    exact ⟨fun same => markup (.inr (.inl (eq_of_shown_eq same (by decide)))),
      fun same => markup (.inr (.inr (eq_of_shown_eq same (by decide))))⟩

namespace Node

/-- An element that holds the text of a field, if there is any. -/
def field (name content : String) : Node :=
  .element name [] <|
    if content = "" then [] else [.text (String.ofList (content.toList.map shown))]

/-- An element without attributes that holds other elements. -/
def group (name : String) (content : List Node) : Node := .element name [] content

/-- An element around others, if there are any. -/
def optional (name : String) (content : List Node) : List Node :=
  if content.isEmpty then [] else [group name content]

end Node

/-! ## Tags -/

def isName : List Char → Bool
  | [] => false
  | c :: rest => c.isAlpha && rest.all Char.isAlphanum

/-- Whether a character of an attribute value stands for itself. -/
def isPlain (c : Char) : Bool :=
  isChar c && !List.contains ['&', '<', '>', '"', '\t', '\n', '\r'] c

inductive Tag
  | opening (name : String) (attributes : List (String × String))
  | closing (name : String)

/-- The attributes that stand behind the name of a tag, each behind a blank. -/
def attributes? : List Char → Option (List (String × String))
  | [] => some []
  | ' ' :: rest =>
    let name := rest.takeWhile Char.isAlphanum
    match _found : rest.dropWhile Char.isAlphanum with
    | '=' :: '"' :: quoted =>
      let value := quoted.takeWhile isPlain
      match _ends : quoted.dropWhile isPlain with
      | '"' :: behind =>
        if isName name then
          (attributes? behind).map ((String.ofList name, String.ofList value) :: ·)
        else none
      | _ => none
    | _ => none
  | _ => none
termination_by chars => chars.length
decreasing_by
  have shorter := (List.dropWhile_suffix (l := rest) Char.isAlphanum).length_le
  have shorterStill := (List.dropWhile_suffix (l := quoted) isPlain).length_le
  simp only [_found, _ends, List.length_cons] at shorter shorterStill ⊢
  omega

/-- The tag with these characters between its brackets.  No attribute may stand there twice. -/
def Tag.ofChars? : List Char → Option Tag
  | '/' :: name => if isName name then some (.closing (String.ofList name)) else none
  | chars => do
    let name := chars.takeWhile Char.isAlphanum
    let attributes ← attributes? (chars.dropWhile Char.isAlphanum)
    if isName name && (attributes.map Prod.fst).Nodup then
      some (.opening (String.ofList name) attributes)
    else none

theorem takeWhile_append_cons {p : Char → Bool} {front : List Char} {c : Char}
    (holds : ∀ d ∈ front, p d = true) (stops : p c = false) (rest : List Char) :
    (front ++ c :: rest).takeWhile p = front ∧ (front ++ c :: rest).dropWhile p = c :: rest := by
  rw [List.takeWhile_append_of_pos holds, List.dropWhile_append_of_pos holds,
    List.takeWhile_cons_of_neg (by simp [stops]), List.dropWhile_cons_of_neg (by simp [stops]),
    List.append_nil]
  exact ⟨rfl, rfl⟩

theorem isAlphanum_of_isName {name : List Char} (named : isName name = true) :
    ∀ c ∈ name, c.isAlphanum = true := by
  cases name with
  | nil => cases named
  | cons c rest =>
    simp only [isName, Bool.and_eq_true, List.all_eq_true] at named
    simpa [Char.isAlphanum, named.1] using named.2

theorem attributes?_cons {name value : List Char} (named : isName name = true)
    (plain : ∀ c ∈ value, isPlain c = true) (behind : List Char) :
    attributes? (' ' :: (name ++ '=' :: '"' :: (value ++ '"' :: behind))) =
      (attributes? behind).map ((String.ofList name, String.ofList value) :: ·) := by
  have noName : Char.isAlphanum '=' = false := by decide
  have noValue : isPlain '"' = false := by decide
  obtain ⟨takeName, dropName⟩ := takeWhile_append_cons (isAlphanum_of_isName named) noName
    ('"' :: (value ++ '"' :: behind))
  obtain ⟨takeValue, dropValue⟩ := takeWhile_append_cons plain noValue behind
  rw [attributes?]
  split
  · next quoted found =>
    rw [dropName] at found
    cases found
    split
    · next after ends =>
      rw [dropValue] at ends
      cases ends
      rw [takeName, takeValue, if_pos named]
    · next other => exact absurd dropValue (other _)
  · next other => exact absurd dropName (other _)

/-- Names and values that an opening tag can hold as they are. -/
structure IsTag (name : String) (attributes : List (String × String)) : Prop where
  named : isName name.toList = true
  plain : ∀ entry ∈ attributes,
    isName entry.1.toList = true ∧ ∀ c ∈ entry.2.toList, isPlain c = true
  unique : (attributes.map Prod.fst).Nodup

theorem isTag_nil {name : String} (named : isName name.toList = true) : IsTag name [] :=
  ⟨named, nofun, List.nodup_nil⟩

theorem attributeText_cons (name value : String) (others : List (String × String)) :
    (Element.attributeText ((name, value) :: others)).toList =
      ' ' :: (name.toList ++ '=' :: '"' ::
        (value.toList ++ '"' :: (Element.attributeText others).toList)) := by
  simp [Element.attributeText, String.toList_append]

theorem attributes?_attributeText {attributes : List (String × String)}
    (plain : ∀ entry ∈ attributes,
      isName entry.1.toList = true ∧ ∀ c ∈ entry.2.toList, isPlain c = true) :
    attributes? (Element.attributeText attributes).toList = some attributes := by
  induction attributes with
  | nil => simp [Element.attributeText, attributes?]
  | cons entry others ih =>
    obtain ⟨named, value⟩ := plain entry List.mem_cons_self
    have rest := ih fun other member => plain other (List.mem_cons_of_mem _ member)
    rw [attributeText_cons, attributes?_cons named value, rest, String.ofList_toList,
      String.ofList_toList]
    rfl

/-- A tag is read back. -/
theorem IsTag.ofChars? {name : String} {attributes : List (String × String)}
    (isTag : IsTag name attributes) :
    Tag.ofChars? (name.toList ++ (Element.attributeText attributes).toList) =
      some (.opening name attributes) := by
  obtain ⟨named, plain, unique⟩ := isTag
  have stops : (Element.attributeText attributes).toList.takeWhile Char.isAlphanum = [] ∧
      (Element.attributeText attributes).toList.dropWhile Char.isAlphanum =
        (Element.attributeText attributes).toList := by
    cases attributes with
    | nil => simp [Element.attributeText]
    | cons entry others =>
      rw [attributeText_cons]
      exact ⟨rfl, rfl⟩
  have alphanum := isAlphanum_of_isName named
  rw [Tag.ofChars?]
  · rw [List.takeWhile_append_of_pos alphanum, List.dropWhile_append_of_pos alphanum, stops.1,
      stops.2, attributes?_attributeText plain]
    simp [named, unique]
  · intro rest slash
    cases split : name.toList with
    | nil => simp [split, isName] at named
    | cons c letters =>
      rw [split, List.cons_append] at slash
      cases slash
      simp [split, isName] at named

theorem noBracket_of_isName {name : List Char} (named : isName name = true) :
    ∀ c ∈ name, c ≠ '<' ∧ c ≠ '>' := by
  intro c member
  have alphanum := isAlphanum_of_isName named c member
  constructor <;> rintro rfl <;> exact absurd alphanum (by decide)

theorem noBracket_of_isPlain {c : Char} (plain : isPlain c = true) : c ≠ '<' ∧ c ≠ '>' := by
  constructor <;> rintro rfl <;> exact absurd plain (by decide)

/-- No bracket stands inside of a tag. -/
theorem IsTag.noBracket {name : String} {attributes : List (String × String)}
    (isTag : IsTag name attributes) :
    ∀ c ∈ name.toList ++ (Element.attributeText attributes).toList, c ≠ '<' ∧ c ≠ '>' := by
  obtain ⟨named, plain, -⟩ := isTag
  rw [List.forall_mem_append]
  refine ⟨noBracket_of_isName named, ?_⟩
  induction attributes with
  | nil => simp [Element.attributeText]
  | cons entry others ih =>
    obtain ⟨entryNamed, value⟩ := plain entry List.mem_cons_self
    have rest := ih fun other member => plain other (List.mem_cons_of_mem _ member)
    rw [attributeText_cons]
    simp only [List.forall_mem_cons, List.forall_mem_append]
    exact ⟨by decide, noBracket_of_isName entryNamed, by decide, by decide,
      fun c member => noBracket_of_isPlain (value c member), by decide, rest⟩

theorem ofChars?_closing {name : String} (named : isName name.toList = true) :
    Tag.ofChars? ('/' :: name.toList) = some (.closing name) := by
  rw [Tag.ofChars?, if_pos named, String.ofList_toList]

/-! ## Documents -/

/-- An element whose closing tag is still to come, with what it holds so far. -/
structure Frame where
  name : String
  attributes : List (String × String)
  content : List Node

/-- What is known of a document when a part of it has been read. -/
structure Reading where
  /-- What stands on the current line so far. -/
  line : List Char := []
  /-- The characters behind the last tag. -/
  text : List Char := []
  /-- The characters of the tag that is being read, if one is. -/
  tag? : Option (List Char) := none
  /-- What stands in front of that tag, or else of the last one, on its line. -/
  margin : List Char := []
  /-- What the innermost open element holds so far; outside of all elements, what the document
  does. -/
  content : List Node := []
  /-- The elements that are open, the innermost first. -/
  outer : List Frame := []
  openings : List Opening := []

namespace Reading

/-- The content so far with the text behind it.  Blank text is left out beside an element. -/
def withText? (state : Reading) (besideElement : Bool) : Option (List Node) :=
  if state.text.isEmpty || (besideElement && state.text.all isSpace) then some state.content
  else (decode? state.text).map fun text => state.content ++ [.text (String.ofList text)]

/-- What is known behind a tag.  A closing tag must have the name of the innermost open element;
content in front of it ends with an element, since text has not been taken yet. -/
def behindTag? (state : Reading) : Tag → Option Reading
  | .opening name attributes => do
    let before ← state.withText? true
    some { state with
      text := []
      tag? := none
      content := []
      outer := ⟨name, attributes, before⟩ :: state.outer
      openings := state.openings ++ [⟨state.outer.length, state.margin⟩] }
  | .closing name =>
    match state.outer with
    | [] => none
    | frame :: outer =>
      if frame.name = name then do
        let inside ← state.withText? !state.content.isEmpty
        some { state with
          text := []
          tag? := none
          content := frame.content ++ [.element frame.name frame.attributes inside]
          outer }
      else none

theorem behindTag?_opening {state : Reading} {name : String}
    {attributes : List (String × String)} {before : List Node}
    (whole : state.withText? true = some before) :
    state.behindTag? (.opening name attributes) =
      some { state with
        text := []
        tag? := none
        content := []
        outer := ⟨name, attributes, before⟩ :: state.outer
        openings := state.openings ++ [⟨state.outer.length, state.margin⟩] } := by
  rw [behindTag?, whole]
  rfl

theorem behindTag?_closing {state : Reading} {name : String}
    {attributes : List (String × String)} {before inside : List Node} {outer : List Frame}
    (innermost : state.outer = ⟨name, attributes, before⟩ :: outer)
    (whole : state.withText? (!state.content.isEmpty) = some inside) :
    state.behindTag? (.closing name) =
      some { state with
        text := []
        tag? := none
        content := before ++ [.element name attributes inside]
        outer } := by
  simp only [behindTag?, innermost, whole, if_true]
  rfl

/-- What stands on the line of a character up to it, given what stands in front of it. -/
def nextLine (line : List Char) (c : Char) : List Char :=
  if c = '\n' then [] else line ++ [c]

/-- Reads one character. -/
def step (state : Reading) (c : Char) : Option Reading :=
  let line := nextLine state.line c
  match state.tag? with
  | none =>
    if c = '<' then some { state with line, tag? := some [], margin := state.line }
    else if c = '>' then none
    else some { state with line, text := state.text ++ [c] }
  | some written =>
    if c = '<' then none
    else if c = '>' then (Tag.ofChars? written).bind { state with line }.behindTag?
    else some { state with line, tag? := some (written ++ [c]) }

/-- Reads characters one after the other. -/
def run (state : Reading) (chars : List Char) : Option Reading := chars.foldlM step state

end Reading

/-- The one element of a document that it reads as, and where its opening tags stand. -/
def read? (document : String) : Option (Node × List Opening) := do
  let state ← Reading.run {} document.toList
  match state.tag?, state.outer, ← state.withText? true with
  | none, [], [.element name attributes content] =>
    some (.element name attributes content, state.openings)
  | _, _, _ => none

example : (read? "<a>1 &lt; 2 \n <b> </b>\n</a>\n").map Prod.fst =
    some (.element "a" [] [.text "1 < 2 \n ", .element "b" [] [.text " "]]) := by cbv

example : (read? "<a>\n <b>\n </a>\n</b>\n").isNone = true := by cbv

namespace Reading

variable {state : Reading}

/-- What stands on the line behind characters, given what stands in front of them. -/
def lineBehind (line chars : List Char) : List Char := chars.foldl nextLine line

theorem run_cons (state : Reading) (c : Char) (rest : List Char) :
    run state (c :: rest) = (step state c).bind (run · rest) :=
  List.foldlM_cons

theorem run_append (state : Reading) (chars rest : List Char) :
    run state (chars ++ rest) = (run state chars).bind (run · rest) :=
  List.foldlM_append

/-- What is known behind characters that stand between tags. -/
def behindText (state : Reading) (chars : List Char) : Reading :=
  { state with line := lineBehind state.line chars, text := state.text ++ chars }

/-- Text between tags is taken as it stands. -/
theorem run_text {chars : List Char} (outside : state.tag? = none)
    (text : ∀ c ∈ chars, c ≠ '<' ∧ c ≠ '>') : run state chars = some (state.behindText chars) := by
  induction chars generalizing state with
  | nil =>
    rw [behindText, List.append_nil]
    rfl
  | cons c chars ih =>
    obtain ⟨noLess, noGreater⟩ := text c List.mem_cons_self
    have taken : step state c = some (state.behindText [c]) := by
      simp [step, behindText, lineBehind, outside, noLess, noGreater]
    have stillOutside : (state.behindText [c]).tag? = none := outside
    have others := ih stillOutside fun d member => text d (List.mem_cons_of_mem _ member)
    rw [run_cons, taken, Option.bind_some, others]
    simp [behindText, lineBehind]

theorem run_insideTag {written chars : List Char} (inside : state.tag? = some written)
    (text : ∀ c ∈ chars, c ≠ '<' ∧ c ≠ '>') :
    run state chars =
      some { state with
        line := lineBehind state.line chars
        tag? := some (written ++ chars) } := by
  induction chars generalizing state written with
  | nil =>
    rw [List.append_nil, ← inside]
    rfl
  | cons c chars ih =>
    obtain ⟨noLess, noGreater⟩ := text c List.mem_cons_self
    have taken : step state c =
        some { state with
          line := nextLine state.line c
          tag? := some (written ++ [c]) } := by
      simp [step, inside, noLess, noGreater]
    rw [run_cons, taken, Option.bind_some,
      ih rfl fun d member => text d (List.mem_cons_of_mem _ member), List.append_assoc]
    rfl

/-- A tag is read as a whole, and its margin is what stood on the line in front of it. -/
theorem run_tag {chars : List Char} {tag : Tag} (outside : state.tag? = none)
    (text : ∀ c ∈ chars, c ≠ '<' ∧ c ≠ '>') (isTag : Tag.ofChars? chars = some tag) :
    run state ('<' :: (chars ++ ['>'])) =
      { state with
        line := lineBehind state.line ('<' :: (chars ++ ['>']))
        tag? := some chars
        margin := state.line }.behindTag? tag := by
  have opened : step state '<' =
      some { state with
        line := nextLine state.line '<'
        tag? := some []
        margin := state.line } := by
    simp [step, outside]
  rw [run_cons, opened, Option.bind_some, run_append, run_insideTag rfl text, Option.bind_some,
    run_cons]
  simp only [step, lineBehind, isTag, List.nil_append, List.foldl_cons, List.foldl_append,
    List.foldl_nil]
  exact Option.bind_fun_some _

end Reading

end Markup
end ContextualQuery
