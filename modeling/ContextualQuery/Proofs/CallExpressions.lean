import ContextualQuery.Proofs.BuilderSteps
import Mathlib.Data.List.Induction

/-!
# Calls as expressions

The calls of a chain spell an expression, word by word.  Its operands are search clauses, the clause
that the chain started from, and expressions in brackets; an operator takes all that stands before
it in its brackets for its left operand.  A list of words is spelled by one expression at most, and
what a chain of calls builds is the clause of the expression that the calls spell.
-/

namespace ContextualQuery

/-! ## Expressions -/

/-- What may stand between the index and the term of a search clause. -/
inductive Detail
  | relation (relation : String)
  | modifier (modifier : Modifier)
deriving DecidableEq, Repr

namespace Detail

def relation? : Detail → Option String
  | .relation name => some name
  | .modifier _ => none

def modifier? : Detail → Option Modifier
  | .relation _ => none
  | .modifier added => some added

end Detail

/-- A word of an expression over clauses. -/
inductive Word
  /-- A whole clause. -/
  | given (clause : Clause)
  | search (index : String)
  | detail (detail : Detail)
  | term (term : String)
  | operator (operator : Operator)
  | opening
  | closing
deriving DecidableEq, Repr

inductive Expression.Kind
  | operand
  /-- Operands with operators between them. -/
  | chain

inductive Expression : Expression.Kind → Type
  | given (clause : Clause) : Expression .operand
  | search (index : String) (details : List Detail) (term : String) : Expression .operand
  /-- A chain in brackets. -/
  | group (inner : Expression .chain) : Expression .operand
  | alone (operand : Expression .operand) : Expression .chain
  /-- An operator with its modifiers behind a chain. -/
  | link (left : Expression .chain) (operator : Operator) (modifiers : List Modifier)
    (right : Expression .operand) : Expression .chain

/-- The search clause with the relation given last and the modifiers in order. -/
def SearchClause.detailed (index : String) (details : List Detail) (term : String) :
    SearchClause where
  index := index
  relation := (details.filterMap Detail.relation?).getLastD ""
  modifiers := details.filterMap Detail.modifier?
  term := term

theorem SearchClause.detailed_relation (index relation term : String) (details : List Detail) :
    { detailed index details term with relation } =
      detailed index (details ++ [.relation relation]) term := by
  have relations : (details ++ [Detail.relation relation]).filterMap Detail.relation? =
      details.filterMap Detail.relation? ++ [relation] := List.filterMap_append
  have modifiers : (details ++ [Detail.relation relation]).filterMap Detail.modifier? =
      details.filterMap Detail.modifier? := List.filterMap_append.trans (List.append_nil _)
  rw [detailed, detailed, relations, modifiers, List.getLastD_concat]

theorem SearchClause.detailed_modifier (index term : String) (modifier : Modifier)
    (details : List Detail) :
    { detailed index details term with
      modifiers := (detailed index details term).modifiers ++ [modifier] } =
      detailed index (details ++ [.modifier modifier]) term := by
  have relations : (details ++ [Detail.modifier modifier]).filterMap Detail.relation? =
      details.filterMap Detail.relation? := List.filterMap_append.trans (List.append_nil _)
  have modifiers : (details ++ [Detail.modifier modifier]).filterMap Detail.modifier? =
      details.filterMap Detail.modifier? ++ [modifier] := List.filterMap_append
  rw [detailed, detailed, relations, modifiers]

namespace Expression

def operatorWords (operator : Operator) (modifiers : List Modifier) : List Word :=
  .operator operator :: (modifiers.map Detail.modifier).map .detail

def words {kind : Kind} : Expression kind → List Word
  | .given clause => [.given clause]
  | .search index details term => .search index :: details.map .detail ++ [.term term]
  | .group inner => .opening :: inner.words ++ [.closing]
  | .alone operand => operand.words
  | .link left operator modifiers right =>
    left.words ++ operatorWords operator modifiers ++ right.words

/-- The clause that an expression stands for. -/
def clause {kind : Kind} : Expression kind → Clause
  | .given clause => clause
  | .search index details term => .search [] (.detailed index details term)
  | .group inner => inner.clause
  | .alone operand => operand.clause
  | .link left operator modifiers right => .boolean [] left.clause operator modifiers right.clause

/-! ## One expression at most -/

/-- Details at the end of a list of words, with the word in front of them, are found again. -/
theorem eq_of_append_details {before other : List Word} {word first : Word}
    {details others : List Detail} (plain : ∀ detail, word ≠ .detail detail)
    (alsoPlain : ∀ detail, first ≠ .detail detail)
    (same : before ++ word :: details.map .detail = other ++ first :: others.map .detail) :
    before = other ∧ word = first ∧ details = others := by
  induction details using List.reverseRecOn generalizing others with
  | nil =>
    rcases List.eq_nil_or_concat others with rfl | ⟨others, last, rfl⟩
    · obtain ⟨front, rfl⟩ := List.append_singleton_inj.1 same
      exact ⟨front, rfl, rfl⟩
    · rw [List.concat_eq_append, List.map_append, ← List.cons_append, ← List.append_assoc] at same
      exact absurd (List.append_singleton_inj.1 same).2 (plain last)
  | append_singleton details detail ih =>
    rw [List.map_append, ← List.cons_append, ← List.append_assoc] at same
    rcases List.eq_nil_or_concat others with rfl | ⟨others, last, rfl⟩
    · exact absurd (List.append_singleton_inj.1 same).2.symm (alsoPlain detail)
    · rw [List.concat_eq_append, List.map_append, ← List.cons_append, ← List.append_assoc] at same
      obtain ⟨front, behind⟩ := List.append_singleton_inj.1 same
      cases behind
      obtain ⟨outer, inner, rfl⟩ := ih front
      exact ⟨outer, inner, List.concat_eq_append.symm⟩

/-- Whether a chain may begin behind these words. -/
def Begins (before : List Word) : Prop := ∀ word ∈ before.getLast?, word = .opening

theorem begins_opening (before : List Word) : Begins (before ++ [.opening]) := by
  simp [Begins]

theorem not_begins (before : List Word) (operator : Operator) (modifiers : List Modifier) :
    ¬ Begins (before ++ operatorWords operator modifiers) := by
  have filled : operatorWords operator modifiers ≠ [] := List.cons_ne_nil _ _
  have noOpening : .opening ∉ operatorWords operator modifiers := by simp [operatorWords]
  intro begins
  have last : (before ++ operatorWords operator modifiers).getLast? =
      some ((operatorWords operator modifiers).getLast filled) := by
    rw [List.getLast?_append_of_ne_nil _ filled, List.getLast?_eq_getLast_of_ne_nil filled]
  have opening := List.getLast_mem filled
  rw [begins _ last] at opening
  exact noOpening opening

/-- The last word of an operand, which tells what kind of operand it is. -/
def lastWord : Expression .operand → Word
  | .given clause => .given clause
  | .search _ _ term => .term term
  | .group _ => .closing

/-- The words of an operand in front of the last one. -/
def leadingWords : Expression .operand → List Word
  | .given _ => []
  | .search index details _ => .search index :: details.map .detail
  | .group inner => .opening :: inner.words

theorem words_eq_leadingWords (operand : Expression .operand) :
    operand.words = operand.leadingWords ++ [operand.lastWord] := by
  cases operand <;> rfl

theorem eq_of_append_operand {operand other : Expression .operand} {before first : List Word}
    (same : before ++ operand.words = first ++ other.words) :
    before ++ operand.leadingWords = first ++ other.leadingWords ∧
      operand.lastWord = other.lastWord := by
  rw [words_eq_leadingWords, words_eq_leadingWords, ← List.append_assoc,
    ← List.append_assoc] at same
  exact List.append_singleton_inj.1 same

/-- Behind words that a chain may follow, one expression at most ends a list of words.  The words
are compared from the end, where every operand has a word of its own kind; the words in front stay
open, so that the chain on the left of an operator can be compared next. -/
theorem eq_of_append_words {kind : Kind} {expression other : Expression kind}
    {before first : List Word} (begins : kind = .chain → Begins before ∧ Begins first)
    (same : before ++ expression.words = first ++ other.words) :
    before = first ∧ expression = other := by
  induction expression generalizing before first with
  | given clause =>
    obtain ⟨front, last⟩ := eq_of_append_operand same
    cases other with
    | given otherClause =>
      cases last
      exact ⟨List.append_cancel_right front, rfl⟩
    | search | group => cases last
  | search index details term =>
    obtain ⟨front, last⟩ := eq_of_append_operand same
    cases other with
    | search otherIndex otherDetails otherTerm =>
      obtain ⟨outer, start, rfl⟩ :=
        eq_of_append_details (by rintro _ ⟨⟩) (by rintro _ ⟨⟩) front
      cases last
      cases start
      exact ⟨outer, rfl⟩
    | given | group => cases last
  | group inner ih =>
    obtain ⟨front, last⟩ := eq_of_append_operand same
    cases other with
    | group otherInner =>
      rw [leadingWords, leadingWords, List.append_cons, List.append_cons first] at front
      obtain ⟨outer, rfl⟩ := ih (fun _ => ⟨begins_opening _, begins_opening _⟩) front
      exact ⟨(List.append_singleton_inj.1 outer).1, rfl⟩
    | given | search => cases last
  | alone operand ih =>
    cases other with
    | alone otherOperand =>
      obtain ⟨front, rfl⟩ := ih (by rintro ⟨⟩) same
      exact ⟨front, rfl⟩
    | link left operator modifiers right =>
      rw [words, words, ← List.append_assoc, ← List.append_assoc] at same
      obtain ⟨front, -⟩ := ih (by rintro ⟨⟩) same
      rw [front] at begins
      exact absurd (begins rfl).1 (not_begins _ _ _)
  | link left operator modifiers right leftUnique rightUnique =>
    rw [words, ← List.append_assoc, ← List.append_assoc] at same
    cases other with
    | alone otherOperand =>
      obtain ⟨front, -⟩ := rightUnique (by rintro ⟨⟩) same
      rw [← front] at begins
      exact absurd (begins rfl).2 (not_begins _ _ _)
    | link otherLeft otherOperator otherModifiers otherRight =>
      rw [words, ← List.append_assoc, ← List.append_assoc] at same
      obtain ⟨front, rfl⟩ := rightUnique (by rintro ⟨⟩) same
      obtain ⟨outer, sign, details⟩ :=
        eq_of_append_details (by rintro _ ⟨⟩) (by rintro _ ⟨⟩) front
      cases sign
      obtain rfl := List.map_injective_iff.2 (fun _ _ => Detail.modifier.inj) details
      obtain ⟨start, rfl⟩ := leftUnique begins outer
      exact ⟨start, rfl⟩

/-- One chain at most spells a list of words. -/
theorem words_injective : Function.Injective (words : Expression .chain → List Word) :=
  fun _ _ same => (eq_of_append_words (fun _ => ⟨by rintro _ ⟨⟩, by rintro _ ⟨⟩⟩)
    (congrArg ([] ++ ·) same)).2

end Expression

/-! ## What calls spell -/

namespace Call

/-- The words that a call adds to an expression. -/
def words {before after : Stage} : Call before after → List Word
  | .declare .. | .sortBy .. => []
  | .join _ operator => [.operator operator]
  | .joinNamed _ word => ((Operator.ofKeyword? word).map Word.operator).toList
  | .search _ index => [.search index]
  | .beginClause _ => [.opening]
  | .relation name => [.detail (.relation name)]
  | .searchModifier name | .joinModifier name => [.detail (.modifier { name })]
  | .searchModifierWith name comparison value | .joinModifierWith name comparison value =>
    [.detail (.modifier (.escaped name comparison value))]
  | .term text => [.term (Escape.masking (Escape.special text))]
  | .rawTerm text => [.term text]
  | .endClause => [.closing]

def declarations {before after : Stage} : Call before after → List Prefix
  | .declare name uri => [⟨name, uri⟩]
  | _ => []

def sortKeys {before after : Stage} : Call before after → List SortKey
  | .sortBy _ index modifiers => [{ index, modifiers := modifiers.map Modifier.keyed }]
  | _ => []

end Call

namespace Calls

/-- The words that calls spell behind those of the start. -/
def words (first : List Word) {stage : Stage} : Calls stage → List Word
  | .start => first
  | .andThen calls call => calls.words first ++ call.words

/-- The declarations of a chain in order. -/
def declarations {stage : Stage} : Calls stage → List Prefix
  | .start => []
  | .andThen calls call => calls.declarations ++ call.declarations

/-- The sort keys that a chain adds, in order. -/
def sortKeys {stage : Stage} : Calls stage → List SortKey
  | .start => []
  | .andThen calls call => calls.sortKeys ++ call.sortKeys

end Calls

/-! ## What drafts hold of the words -/

namespace Group

/-- The words of which a group holds the clause. -/
inductive Reads : Group → List Word → Prop
  | empty : Reads .empty []
  | operand (chain : Expression .chain) : Reads (.operand chain.clause) chain.words
  | awaiting (left : Expression .chain) (operator : Operator) (modifiers : List Modifier) :
    Reads (.awaiting left.clause operator modifiers)
      (left.words ++ Expression.operatorWords operator modifiers)

/-- The words in front of the current group: those of every group around it, each with the bracket
that is open behind them. -/
inductive Surround : List Group → List Word → Prop
  | nil : Surround [] []
  | cons {group : Group} {outer : List Group} {before behind : List Word}
    (reads : group.Reads behind) (surround : Surround outer before) :
    Surround (group :: outer) (before ++ behind ++ [.opening])

variable {group : Group} {inner : List Word}

/-- A group with room for an operand holds a chain with the operand behind what it held. -/
theorem Reads.completed (reads : group.Reads inner) (vacant : group.isVacant = true)
    (operand : Expression .operand) :
    (Group.operand (group.completed operand.clause)).Reads (inner ++ operand.words) := by
  cases reads with
  | empty => exact .operand (.alone operand)
  | operand => cases vacant
  | awaiting left operator modifiers => exact .operand (.link left operator modifiers operand)

theorem Reads.exists_chain {clause : Clause} (reads : (Group.operand clause).Reads inner) :
    ∃ chain : Expression .chain, clause = chain.clause ∧ inner = chain.words := by
  cases reads with
  | operand chain => exact ⟨chain, rfl, rfl⟩

theorem Reads.awaited {clause : Clause} (reads : (Group.operand clause).Reads inner)
    (operator : Operator) :
    (Group.awaiting clause operator []).Reads (inner ++ [.operator operator]) := by
  obtain ⟨chain, rfl, rfl⟩ := reads.exists_chain
  exact .awaiting chain operator []

theorem Reads.addModifier (reads : group.Reads inner) (fits : group.Fits .join)
    (modifier : Modifier) :
    (group.addModifier modifier).Reads (inner ++ [.detail (.modifier modifier)]) := by
  cases reads with
  | empty | operand => cases fits
  | awaiting left operator modifiers =>
    have words : left.words ++ Expression.operatorWords operator modifiers ++
        [.detail (.modifier modifier)] =
          left.words ++ Expression.operatorWords operator (modifiers ++ [modifier]) := by
      simp [Expression.operatorWords]
    rw [words]
    exact .awaiting left operator (modifiers ++ [modifier])

end Group

theorem Stage.ne_search_of_isComplete {stage : Stage} (complete : stage.isComplete = true) :
    stage ≠ .search := by
  rintro rfl
  cases complete

theorem Stage.ne_search_of_takesOperand {stage : Stage} (operand : stage.takesOperand = true) :
    stage ≠ .search := by
  rintro rfl
  cases operand

/-- The words of a search clause that has no term yet; at other stages there are none. -/
inductive SearchClause.Begun : SearchClause → Stage → List Word → Prop
  | search (index : String) (details : List Detail) :
    Begun (.detailed index details "") .search (.search index :: details.map .detail)
  | none (search : SearchClause) {stage : Stage} (other : stage ≠ .search) : Begun search stage []

namespace SearchClause.Begun

variable {search : SearchClause} {stage : Stage} {begun : List Word}

theorem eq_nil (begins : search.Begun stage begun) (other : stage ≠ .search) : begun = [] := by
  cases begins with
  | search => exact absurd rfl other
  | none => rfl

theorem addRelation (begins : search.Begun .search begun) (relation : String) :
    SearchClause.Begun { search with relation } .search
      (begun ++ [.detail (.relation relation)]) := by
  cases begins with
  | search index details =>
    have more := Begun.search index (details ++ [.relation relation])
    rwa [List.map_append, ← List.cons_append, ← detailed_relation] at more
  | none _ other => exact absurd rfl other

theorem addModifier (begins : search.Begun .search begun) (modifier : Modifier) :
    SearchClause.Begun { search with modifiers := search.modifiers ++ [modifier] } .search
      (begun ++ [.detail (.modifier modifier)]) := by
  cases begins with
  | search index details =>
    have more := Begun.search index (details ++ [.modifier modifier])
    rwa [List.map_append, ← List.cons_append, ← detailed_modifier] at more
  | none _ other => exact absurd rfl other

theorem exists_operand (begins : search.Begun .search begun) (term : String) :
    ∃ operand : Expression .operand, Clause.search [] { search with term } = operand.clause ∧
      begun ++ [.term term] = operand.words := by
  cases begins with
  | search index details => exact ⟨.search index details term, rfl, rfl⟩
  | none _ other => exact absurd rfl other

end SearchClause.Begun

/-- Whether a draft at a stage holds the words of an expression. -/
structure Draft.Spells (draft : Draft) (stage : Stage) (words : List Word) : Prop where
  fits : draft.Fits stage
  split : ∃ outer inner begun, words = outer ++ (inner ++ begun) ∧
    Group.Surround draft.outer outer ∧ draft.current.Reads inner ∧ draft.pending.Begun stage begun

namespace Draft.Spells

variable {draft : Draft} {stage : Stage} {words : List Word}

/-- Between search clauses all words stand in groups. -/
theorem exists_split (spells : draft.Spells stage words) (other : stage ≠ .search) :
    ∃ outer inner, words = outer ++ inner ∧ Group.Surround draft.outer outer ∧
      draft.current.Reads inner := by
  obtain ⟨outer, inner, begun, rfl, surround, reads, begins⟩ := spells.split
  rw [begins.eq_nil other, List.append_nil]
  exact ⟨outer, inner, rfl, surround, reads⟩

theorem join (spells : draft.Spells stage words) (complete : stage.isComplete = true)
    {left : Clause} (holds : draft.current.clause? = some left) (operator : Operator) :
    Draft.Spells { draft with current := .awaiting left operator [] } .join
      (words ++ [.operator operator]) := by
  obtain ⟨outer, inner, rfl, surround, reads⟩ :=
    spells.exists_split (Stage.ne_search_of_isComplete complete)
  rw [spells.fits.current.eq_operand complete holds] at reads
  refine ⟨⟨.join _ _ _, spells.fits.outer⟩, outer, inner ++ [.operator operator], [], ?_, surround,
    reads.awaited operator, .none _ (by decide)⟩
  rw [List.append_nil, List.append_assoc]

theorem beginClause (spells : draft.Spells stage words) (operand : stage.takesOperand = true)
    (vacant : draft.current.isVacant = true) :
    Draft.Spells { draft with current := .empty, outer := draft.current :: draft.outer } .clause
      (words ++ [.opening]) := by
  obtain ⟨outer, inner, rfl, surround, reads⟩ :=
    spells.exists_split (Stage.ne_search_of_takesOperand operand)
  refine ⟨⟨.clause, List.forall_mem_cons.2 ⟨vacant, spells.fits.outer⟩⟩, _, [], [], ?_,
    .cons reads surround, .empty, .none _ (by decide)⟩
  rw [List.append_nil, List.append_nil]

theorem modifyJoin (spells : draft.Spells .join words) (modifier : Modifier) :
    (draft.modifyJoin modifier).Spells .join (words ++ [.detail (.modifier modifier)]) := by
  obtain ⟨outer, inner, rfl, surround, reads⟩ := spells.exists_split (by decide)
  refine ⟨⟨spells.fits.current.addModifier modifier, spells.fits.outer⟩, outer,
    inner ++ [Word.detail (.modifier modifier)], [], ?_, surround,
    reads.addModifier spells.fits.current modifier, .none _ (by decide)⟩
  rw [List.append_nil, List.append_assoc]

/-- Something more about the pending search clause. -/
theorem detail (spells : draft.Spells .search words) {pending : SearchClause} {detail : Detail}
    (more : ∀ begun, draft.pending.Begun .search begun →
      pending.Begun .search (begun ++ [.detail detail])) :
    Draft.Spells { draft with pending } .search (words ++ [.detail detail]) := by
  obtain ⟨outer, inner, begun, rfl, surround, reads, begins⟩ := spells.split
  refine ⟨⟨spells.fits.current, spells.fits.outer⟩, outer, inner, begun ++ [.detail detail], ?_,
    surround, reads, more begun begins⟩
  rw [List.append_assoc, List.append_assoc]

theorem searched (spells : draft.Spells .search words) (vacant : draft.current.isVacant = true)
    (term : String) : (draft.searched term).Spells .expr (words ++ [.term term]) := by
  obtain ⟨outer, inner, begun, rfl, surround, reads, begins⟩ := spells.split
  obtain ⟨operand, clause, ends⟩ := begins.exists_operand term
  have completed := reads.completed vacant operand
  rw [← clause] at completed
  refine ⟨⟨.expr _, spells.fits.outer⟩, outer, inner ++ operand.words, [], ?_, surround, completed,
    .none _ (by decide)⟩
  rw [List.append_nil, ← ends, List.append_assoc, List.append_assoc]

theorem endClause (spells : draft.Spells .expr words) {group : Group} {outer : List Group}
    (opened : draft.outer = group :: outer) {clause : Clause}
    (holds : draft.current.clause? = some clause) (vacant : group.isVacant = true) :
    Draft.Spells { draft with current := .operand (group.completed clause), outer := outer } .expr
      (words ++ [.closing]) := by
  obtain ⟨before, inner, rfl, surround, reads⟩ := spells.exists_split (by decide)
  have fits := spells.fits.outer
  rw [spells.fits.current.eq_operand rfl holds] at reads
  rw [opened] at surround fits
  obtain ⟨chain, rfl, rfl⟩ := reads.exists_chain
  cases surround with
  | @cons _ _ first second groupReads surround =>
    have completed := groupReads.completed vacant (.group chain)
    refine ⟨⟨.expr _, (List.forall_mem_cons.1 fits).2⟩, first,
      second ++ (Expression.group chain).words, [], ?_, surround, completed, .none _ (by decide)⟩
    simp [Expression.words]

end Draft.Spells

namespace Call.Makes

variable {before after : Stage} {call : Call before after} {draft next : Draft}

theorem prefixes (makes : call.Makes draft next) :
    next.prefixes = draft.prefixes ++ call.declarations := by
  cases makes with
  | declare => rfl
  | _ => exact (List.append_nil _).symm

theorem sortKeys (makes : call.Makes draft next) :
    next.sortKeys = draft.sortKeys ++ call.sortKeys := by
  cases makes with
  | sortBy filled each =>
    rw [eq_map_of_mapM each fun _ _ checked => (Modifier.of_forSortKey checked).1]
    rfl
  | _ => exact (List.append_nil _).symm

/-- A call adds its words to those that a draft holds. -/
theorem spells (makes : call.Makes draft next) {words : List Word}
    (spells : draft.Spells before words) : next.Spells after (words ++ call.words) := by
  cases makes with
  | declare | sortBy =>
    rw [Call.words, List.append_nil]
    exact ⟨⟨spells.fits.current, spells.fits.outer⟩, spells.split⟩
  | @join _ complete _ _ holds => exact spells.join complete holds _
  | @joinNamed _ complete _ _ _ named holds =>
    rw [Call.words, named]
    exact spells.join complete holds _
  | @search _ operand index vacant =>
    have searches : Makes draft (.search operand index)
        { draft with pending := { index, term := "" } } := .search vacant
    obtain ⟨outer, inner, rfl, surround, reads⟩ :=
      spells.exists_split (Stage.ne_search_of_takesOperand operand)
    exact ⟨searches.fits spells.fits, outer, inner, [.search index], List.append_assoc _ _ _,
      surround, reads, .search index []⟩
  | @beginClause _ operand vacant => exact spells.beginClause operand vacant
  | relation => exact spells.detail fun _ begins => begins.addRelation _
  | searchModifier made =>
    obtain ⟨-, rfl⟩ := Modifier.named_eq_ok.1 made
    exact spells.detail fun _ begins => begins.addModifier _
  | searchModifierWith made =>
    obtain ⟨-, -, rfl⟩ := Modifier.valued_eq_ok.1 made
    exact spells.detail fun _ begins => begins.addModifier _
  | joinModifier made =>
    obtain ⟨-, rfl⟩ := Modifier.named_eq_ok.1 made
    exact spells.modifyJoin _
  | joinModifierWith made =>
    obtain ⟨-, -, rfl⟩ := Modifier.valued_eq_ok.1 made
    exact spells.modifyJoin _
  | term filled vacant => exact spells.searched vacant _
  | rawTerm vacant => exact spells.searched vacant _
  | endClause opened holds vacant => exact spells.endClause opened holds vacant

end Call.Makes

/-! ## What chains build -/

/-- The words that stand for the clause of a query to start from. -/
def Query.words (start : Option Query) : List Word :=
  (start.map fun query => Word.given query.clause).toList

namespace Calls

variable {start : Option Query} {stage : Stage} {calls : Calls stage} {draft : Draft}

/-- What a draft holds of the calls that led to it. -/
structure Leads (start : Option Query) {stage : Stage} (calls : Calls stage) (draft : Draft) :
    Prop where
  spells : draft.Spells stage (calls.words (Query.words start))
  prefixes : draft.prefixes = calls.declarations
  sortKeys : draft.sortKeys = (start.elim [] Query.sortKeys) ++ calls.sortKeys

theorem leads_start (reached : (Builder.starting start).state = .ok draft) :
    Calls.start.Leads start draft := by
  cases start with
  | none =>
    cases reached
    exact ⟨⟨⟨.start, List.forall_mem_nil _⟩, [], [], [], rfl, .nil, .empty, .none _ (by decide)⟩,
      rfl, rfl⟩
  | some query =>
    cases reached
    exact ⟨⟨⟨.root _, List.forall_mem_nil _⟩, [], [.given query.clause], [], rfl, .nil,
      .operand (.alone (.given query.clause)), .none _ (by decide)⟩, rfl, (List.append_nil _).symm⟩

theorem leads_of_state (reached : (calls.builderFrom (.starting start)).state = .ok draft) :
    calls.Leads start draft := by
  refine holds_of_state (Leads start) (fun draft => leads_start) ?_ reached
  rintro before after calls call draft next ⟨spells, prefixes, sortKeys⟩ makes
  refine ⟨makes.spells spells, ?_, ?_⟩
  · rw [makes.prefixes, prefixes, declarations]
  · rw [makes.sortKeys, sortKeys, Calls.sortKeys, List.append_assoc]

/-- A chain of calls that builds a query spells one chain of operands, whose clause it builds, with
the declarations of the calls in front of those that the clause has and their sort keys behind those
of the start. -/
theorem build_eq_clause {query : Query} (complete : stage.isComplete = true)
    (built : (calls.builderFrom (.starting start)).build = .ok query) :
    ∃ chain : Expression .chain, chain.words = calls.words (Query.words start) ∧
      (∀ other : Expression .chain, other.words = chain.words → other = chain) ∧
      query.clause = chain.clause.withPrefixes (calls.declarations ++ chain.clause.prefixes) ∧
      query.sortKeys = (start.elim [] Query.sortKeys) ++ calls.sortKeys := by
  obtain ⟨draft, reached, built⟩ := bind_eq_ok.1 built
  obtain ⟨spells, prefixes, sortKeys⟩ := leads_of_state reached
  obtain ⟨closed, clause, holds, rfl⟩ := Draft.build_eq_ok.1 built
  obtain ⟨outer, inner, words, surround, reads⟩ :=
    spells.exists_split (Stage.ne_search_of_isComplete complete)
  rw [closed] at surround
  cases surround
  rw [spells.fits.current.eq_operand complete holds] at reads
  obtain ⟨chain, rfl, rfl⟩ := reads.exists_chain
  refine ⟨chain, words.symm, fun other same => Expression.words_injective same, ?_, sortKeys⟩
  rw [prefixes]
  rfl

theorem build_eq_clause_nested :
    let root : Clause := .search [⟨"dc", "info:dc"⟩] { index := "dc.title", term := "fish" }
    let start : Query := { clause := root, sortKeys := [{ index := "date" }] }
    let calls : Calls .expr :=
      (((((((((((((((Calls.start.andThen (.declare "x" "info:x")).andThen (.declare "" "u")).andThen
        (.joinNamed rfl "PROX")).andThen (.joinModifier "unit")).andThen
        (.joinModifierWith "distance" "" "\"3\"")).andThen (.beginClause rfl)).andThen
        (.search rfl "a")).andThen (.relation "any")).andThen (.searchModifier "stem")).andThen
        (.term "x*")).andThen (.join rfl .or)).andThen (.search rfl "b")).andThen
        (.rawTerm "y*")).andThen .endClause).andThen (.sortBy rfl "title" [⟨"locale", "", "de"⟩]))
    let chain : Expression .chain :=
      .link (.alone (.given root)) .prox [⟨"unit", "", ""⟩, ⟨"distance", "=", "\\\"3\\\""⟩]
        (.group (.link
          (.alone (.search "a" [.relation "any", .modifier ⟨"stem", "", ""⟩] "x\\*")) .or []
          (.search "b" [] "y*")))
    ∃ query, (calls.builderFrom (.starting (some start))).build = .ok query ∧
      query.clause = .boolean [⟨"x", "info:x"⟩, ⟨"", "u"⟩] root .prox
        [⟨"unit", "", ""⟩, ⟨"distance", "=", "\\\"3\\\""⟩]
        (.boolean [] (.search [] ⟨"a", "any", [⟨"stem", "", ""⟩], "x\\*"⟩) .or []
          (.search [] ⟨"b", "", [], "y*"⟩)) ∧
      query.sortKeys = [⟨"date", []⟩, ⟨"title", [⟨"locale", "=", "de"⟩]⟩] ∧
      chain.words = calls.words (Query.words (some start)) ∧
      query.clause = chain.clause.withPrefixes [⟨"x", "info:x"⟩, ⟨"", "u"⟩] := by
  intro root start calls chain
  have built : (calls.builderFrom (.starting (some start))).build = .ok
      { clause := chain.clause.withPrefixes [⟨"x", "info:x"⟩, ⟨"", "u"⟩]
        sortKeys := [⟨"date", []⟩, ⟨"title", [⟨"locale", "=", "de"⟩]⟩] } :=
    eq_ok_of_toOption (by decide +kernel)
  obtain ⟨found, words, unique, clause, sortKeys⟩ := build_eq_clause rfl built
  have spelled : chain.words = calls.words (Query.words (some start)) := by decide +kernel
  obtain rfl := unique chain (spelled.trans words.symm)
  exact ⟨_, built, by decide +kernel, sortKeys, spelled, clause⟩

end Calls
end ContextualQuery
