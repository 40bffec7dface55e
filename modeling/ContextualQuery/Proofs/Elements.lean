import ContextualQuery.Proofs.Markup

/-!
# Reading elements

An element reads as a node if, wherever its lines stand, the reader adds this node to what it has
read so far, and finds every opening tag behind as many blanks as its level asks for.  What an
element reads as follows from what the elements inside of it read as.
-/

namespace ContextualQuery
namespace Markup

/-! ## Reading lines -/

/-- The characters of lines, each level `step` spaces further in. -/
def characters (step : Nat) (lines : List Line) : List Char :=
  (String.join (lines.map fun line => line.text step ++ "\n")).toList

theorem characters_cons (step : Nat) (line : Line) (rest : List Line) :
    characters step (line :: rest) =
      List.replicate (line.level * step) ' ' ++ (line.content.toList ++ ['\n']) ++
        characters step rest := by
  simp [characters, Line.text]

namespace Reading

variable {step : Nat} {outer : List Frame} {content : List Node} {state : Reading}
variable {name : String} {attributes : List (String × String)}

/-- Whether so much has been read inside of the elements that are open, and each opening tag stood
behind as many blanks as its level asks for. -/
structure Holds (step : Nat) (outer : List Frame) (content : List Node) (state : Reading) :
    Prop where
  outside : state.tag? = none
  outer_eq : state.outer = outer
  content_eq : state.content = content
  indented : ∀ opening ∈ state.openings,
    opening.margin = List.replicate (opening.level * step) ' '

/-- Whether, beyond that, only layout stands behind the last tag, and this on the last line. -/
structure AtLine (step : Nat) (line : List Char) (outer : List Frame) (content : List Node)
    (state : Reading) : Prop extends Holds step outer content state where
  layout : state.text.all isSpace = true
  line_eq : state.line = line

/-- Text that is still to be added leaves what has been read as it is. -/
theorem Holds.behindText (holds : Holds step outer content state) (chars : List Char) :
    Holds step outer content (state.behindText chars) :=
  ⟨holds.outside, holds.outer_eq, holds.content_eq, holds.indented⟩

theorem AtLine.withText? {line : List Char} (ready : AtLine step line outer content state) :
    state.withText? true = some content := by
  simp [Reading.withText?, ready.layout, ready.content_eq]

theorem lineBehind_blanks (line : List Char) (count : Nat) :
    lineBehind line (List.replicate count ' ') = line ++ List.replicate count ' ' := by
  induction count generalizing line with
  | zero => simp [lineBehind]
  | succ count ih =>
    have others := ih (line ++ [' '])
    simpa [lineBehind, List.replicate_succ, nextLine] using others

/-- The blanks at the start of a line become the margin of what follows. -/
theorem AtLine.run_blanks (ready : AtLine step [] outer content state) (count : Nat) :
    ∃ later, AtLine step (List.replicate count ' ') outer content later ∧
      run state (List.replicate count ' ') = some later := by
  refine ⟨_, ⟨ready.toHolds.behindText _, ?_, ?_⟩, run_text ready.outside ?_⟩
  · have blanks : ∀ c ∈ List.replicate count ' ', isSpace c = true := by
      intro c member
      rw [List.eq_of_mem_replicate member]
      rfl
    rw [Reading.behindText, List.all_append, ready.layout, List.all_eq_true.2 blanks]
    rfl
  · rw [Reading.behindText, ready.line_eq, lineBehind_blanks, List.nil_append]
  · intro c member
    rw [List.eq_of_mem_replicate member]
    decide

/-- Behind a tag the line ends, and the next one begins. -/
theorem Holds.run_newline (holds : Holds step outer content state) (noText : state.text = []) :
    ∃ later, AtLine step [] outer content later ∧ run state ['\n'] = some later := by
  have noBracket : ∀ c ∈ ['\n'], c ≠ '<' ∧ c ≠ '>' := List.forall_mem_singleton.2 (by decide)
  refine ⟨_, ⟨holds.behindText _, ?_, rfl⟩, run_text holds.outside noBracket⟩
  rw [Reading.behindText, noText]
  rfl

/-- An opening tag behind the margin that its level asks for opens an element. -/
theorem AtLine.run_opening
    (ready : AtLine step (List.replicate (outer.length * step) ' ') outer content state)
    (isTag : IsTag name attributes) :
    ∃ later, Holds step (⟨name, attributes, content⟩ :: outer) [] later ∧ later.text = [] ∧
      run state (Element.opening name attributes).toList = some later := by
  have written : (Element.opening name attributes).toList =
      '<' :: (name.toList ++ (Element.attributeText attributes).toList ++ ['>']) := by
    simp [Element.opening]
  rw [written, run_tag ready.outside isTag.noBracket isTag.ofChars?]
  refine ⟨_, ?_, ?_, behindTag?_opening ready.withText?⟩
  · refine ⟨rfl, by rw [ready.outer_eq], rfl, ?_⟩
    rw [List.forall_mem_append, List.forall_mem_singleton, ready.line_eq, ready.outer_eq]
    exact ⟨ready.indented, rfl⟩
  · rfl

/-- A closing tag adds the innermost open element to what stands in front of it. -/
theorem Holds.run_closing {before inside : List Node}
    (holds : Holds step (⟨name, attributes, before⟩ :: outer) content state)
    (named : isName name.toList = true)
    (whole : state.withText? (!content.isEmpty) = some inside) :
    ∃ later, Holds step outer (before ++ [.element name attributes inside]) later ∧
      later.text = [] ∧ run state (Element.closing name).toList = some later := by
  have written : (Element.closing name).toList = '<' :: ('/' :: name.toList ++ ['>']) := by
    simp [Element.closing]
  have noBracket : ∀ c ∈ '/' :: name.toList, c ≠ '<' ∧ c ≠ '>' :=
    List.forall_mem_cons.2 ⟨by decide, noBracket_of_isName named⟩
  rw [← holds.content_eq] at whole
  rw [written, run_tag holds.outside noBracket (ofChars?_closing named)]
  refine ⟨_, ?_, ?_, behindTag?_closing holds.outer_eq whole⟩
  · exact ⟨rfl, rfl, rfl, holds.indented⟩
  · rfl

/-- A line is read by reading what stands behind its margin. -/
theorem AtLine.run_line {level : Nat} {text : String} {within : List Frame} {nodes : List Node}
    (ready : AtLine step [] outer content state)
    (reads : ∀ {start : Reading},
      AtLine step (List.replicate (level * step) ' ') outer content start →
        ∃ behind, Holds step within nodes behind ∧ behind.text = [] ∧
          run start text.toList = some behind)
    (rest : List Line) :
    ∃ later, AtLine step [] within nodes later ∧
      run state (characters step (⟨level, text⟩ :: rest)) = run later (characters step rest) := by
  obtain ⟨start, margin, readBlanks⟩ := ready.run_blanks (level * step)
  obtain ⟨behind, holds, noText, readText⟩ := reads margin
  obtain ⟨later, nextLine, readNewline⟩ := holds.run_newline noText
  refine ⟨later, nextLine, ?_⟩
  rw [characters_cons, run_append, run_append, readBlanks, Option.bind_some, run_append, readText,
    Option.bind_some, readNewline, Option.bind_some]

/-- The line of a closing tag completes an element that holds others. -/
theorem AtLine.run_closing {before : List Node}
    (ready : AtLine step [] (⟨name, attributes, before⟩ :: outer) content state)
    (named : isName name.toList = true) (nonempty : content ≠ []) (level : Nat)
    (rest : List Line) :
    ∃ later, AtLine step [] outer (before ++ [.element name attributes content]) later ∧
      run state (characters step (⟨level, Element.closing name⟩ :: rest)) =
        run later (characters step rest) := by
  refine ready.run_line (fun margin => ?_) rest
  have whole := margin.withText?
  rw [← Bool.not_false, ← List.isEmpty_eq_false_iff.2 nonempty] at whole
  exact margin.toHolds.run_closing named whole

/-- Behind the opening tag of an element without other elements, its text is read; it is kept even
if it is blank. -/
theorem Holds.run_escaped (holds : Holds step outer [] state) (noText : state.text = [])
    (text : String) :
    ∃ later, Holds step outer [] later ∧
      later.withText? false =
        some (if text = "" then [] else [.text (String.ofList (text.toList.map shown))]) ∧
      run state (Element.escaped text).toList = some later := by
  have noBracket : ∀ c ∈ (Element.escaped text).toList, c ≠ '<' ∧ c ≠ '>' := by
    intro c member
    rw [Element.escaped, String.toList_ofList, List.mem_flatMap] at member
    obtain ⟨d, -, written⟩ := member
    exact noBracket_escape written
  refine ⟨_, holds.behindText _, ?_, run_text holds.outside noBracket⟩
  rw [withText?, Reading.behindText, noText, holds.content_eq, Element.escaped, List.nil_append,
    String.toList_ofList, decode?_escaped]
  by_cases empty : text = ""
  · subst empty
    rfl
  · have written : text.toList.flatMap Element.escape ≠ [] := by
      intro nothing
      have decoded := decode?_escaped text.toList
      rw [nothing] at decoded
      cases split : text.toList with
      | nil => exact empty (String.toList_eq_nil_iff.1 split)
      | cons c rest => simp [split, decode?] at decoded
    rw [List.isEmpty_eq_false_iff.2 written, if_neg empty]
    rfl

end Reading

/-! ## Reading elements -/

/-- Whether the lines of an element are read as a node, wherever they stand. -/
def ReadsAs (element : Element) (node : Node) : Prop :=
  ∀ ⦃step : Nat⦄ ⦃outer : List Frame⦄ ⦃content : List Node⦄ ⦃state : Reading⦄,
    state.AtLine step [] outer content → ∀ rest, ∃ later,
      Reading.AtLine step [] outer (content ++ [node]) later ∧
        Reading.run state (characters step (element.linesBefore outer.length rest)) =
          Reading.run later (characters step rest)

/-- Whether the lines of elements that stand one behind the other are read as nodes. -/
def AllReadAs (elements : List Element) (nodes : List Node) : Prop :=
  ∀ ⦃step : Nat⦄ ⦃outer : List Frame⦄ ⦃content : List Node⦄ ⦃state : Reading⦄,
    state.AtLine step [] outer content → ∀ rest, ∃ later,
      Reading.AtLine step [] outer (content ++ nodes) later ∧
        Reading.run state
            (characters step (Element.listLinesBefore outer.length elements rest)) =
          Reading.run later (characters step rest)

variable {element : Element} {node : Node} {elements others : List Element}
variable {nodes otherNodes : List Node}

theorem AllReadAs.nil : AllReadAs [] [] := by
  intro step outer content state ready rest
  rw [List.append_nil]
  exact ⟨state, ready, rfl⟩

theorem AllReadAs.cons (first : ReadsAs element node) (behind : AllReadAs elements nodes) :
    AllReadAs (element :: elements) (node :: nodes) := by
  intro step outer content state ready rest
  obtain ⟨middle, between, readFirst⟩ :=
    first ready (Element.listLinesBefore outer.length elements rest)
  obtain ⟨later, done, readOthers⟩ := behind between rest
  rw [List.append_assoc, List.singleton_append] at done
  exact ⟨later, done, readFirst.trans readOthers⟩

theorem AllReadAs.single (only : ReadsAs element node) : AllReadAs [element] [node] :=
  .cons only .nil

theorem listLinesBefore_append (level : Nat) (elements others : List Element) (rest : List Line) :
    Element.listLinesBefore level (elements ++ others) rest =
      Element.listLinesBefore level elements (Element.listLinesBefore level others rest) := by
  induction elements with
  | nil => rfl
  | cons element elements ih =>
    rw [List.cons_append, Element.listLinesBefore, ih, Element.listLinesBefore]

theorem AllReadAs.append (front : AllReadAs elements nodes) (behind : AllReadAs others otherNodes) :
    AllReadAs (elements ++ others) (nodes ++ otherNodes) := by
  intro step outer content state ready rest
  obtain ⟨middle, between, readFront⟩ :=
    front ready (Element.listLinesBefore outer.length others rest)
  obtain ⟨later, done, readOthers⟩ := behind between rest
  rw [List.append_assoc] at done
  refine ⟨later, done, ?_⟩
  rw [listLinesBefore_append]
  exact readFront.trans readOthers

theorem allReadAs_map {α : Type} {element : α → Element} {node : α → Node}
    (each : ∀ value, ReadsAs (element value) (node value)) (values : List α) :
    AllReadAs (values.map element) (values.map node) := by
  induction values with
  | nil => exact .nil
  | cons value others ih => exact .cons (each value) ih

/-- An element that holds text is read as the field with this text. -/
theorem readsAs_leaf {name : String} (named : isName name.toList = true) (text : String) :
    ReadsAs (.leaf name text) (.field name text) := by
  intro step outer content state ready rest
  refine ready.run_line (fun margin => ?_) rest
  obtain ⟨opened, inside, noText, readOpening⟩ := margin.run_opening (isTag_nil named)
  obtain ⟨filled, holds, whole, readText⟩ := inside.run_escaped noText text
  obtain ⟨closed, done, noMore, readClosing⟩ := holds.run_closing named whole
  refine ⟨closed, done, noMore, ?_⟩
  rw [String.toList_append, String.toList_append, Reading.run_append, Reading.run_append,
    readOpening, Option.bind_some, readText, Option.bind_some, readClosing]

/-- An element that holds others is read with what they are read as. -/
theorem readsAs_branch {name : String} {attributes : List (String × String)}
    (isTag : IsTag name attributes) (inside : AllReadAs elements nodes) (nonempty : nodes ≠ []) :
    ReadsAs (.branch name attributes elements) (.element name attributes nodes) := by
  intro step outer content state ready rest
  obtain ⟨opened, within, readOpening⟩ := ready.run_line
    (fun margin => margin.run_opening isTag)
    (Element.listLinesBefore (outer.length + 1) elements
      (⟨outer.length, Element.closing name⟩ :: rest))
  obtain ⟨filled, full, readInside⟩ := inside within (⟨outer.length, Element.closing name⟩ :: rest)
  rw [List.nil_append] at full
  obtain ⟨later, done, readClosing⟩ := full.run_closing isTag.named nonempty outer.length rest
  refine ⟨later, done, ?_⟩
  rw [Element.linesBefore, readOpening]
  exact readInside.trans readClosing

theorem readsAs_group {name : String} (named : isName name.toList = true)
    (inside : AllReadAs elements nodes) (nonempty : nodes ≠ []) :
    ReadsAs (.branch name [] elements) (.group name nodes) :=
  readsAs_branch (isTag_nil named) inside nonempty

/-- An element around others is left out where there are none. -/
theorem allReadAs_optional {α : Type} {element : α → Element} {node : α → Node} {name : String}
    (named : isName name.toList = true) (each : ∀ value, ReadsAs (element value) (node value))
    (values : List α) :
    AllReadAs (if values.isEmpty then [] else [.branch name [] (values.map element)])
      (Node.optional name (values.map node)) := by
  cases values with
  | nil => exact .nil
  | cons value others =>
    have inside := allReadAs_map each (value :: others)
    exact .single (readsAs_group named inside (List.cons_ne_nil _ _))

end Markup
end ContextualQuery
