import ContextualQuery.Query.Json
import Mathlib.Data.List.Forall2
import Mathlib.Data.Option.Basic

/-!
# Reading JSON trees

A reader of the trees in which queries are shown.  It finds the fields of an object by their names,
takes a text or list that is left out for an empty one, and a clause with neither kind of content
for one without any condition.  Of every tree that shows a query, be its fields in the order in
which they are written or in another one, it makes that query; so no two queries share a tree.
-/

namespace ContextualQuery

namespace Json

/-! ## Fields -/

def isObject : Json → Bool
  | .object _ => true
  | _ => false

/-- The value of a field, the first one of several with the name. -/
def field? (name : String) : Json → Option Json
  | .object fields => fields.lookup name
  | _ => none

def string? : Json → Option String
  | .string value => some value
  | _ => none

def items? : Json → Option (List Json)
  | .array items => some items
  | _ => none

/-- The text of a field. -/
def text? (name : String) (tree : Json) : Option String := do (← tree.field? name).string?

/-- The text of a field that is left out when its text is empty. -/
def textOrEmpty? (name : String) (tree : Json) : Option String :=
  match tree.field? name with
  | none => some ""
  | some value => value.string?

/-- What the items of a field show, which is left out when it has none. -/
def list? {α : Type} (read : Json → Option α) (name : String) (tree : Json) : Option (List α) :=
  match tree.field? name with
  | none => some []
  | some value => do (← value.items?).mapM read

theorem sizeOf_field?_lt {name : String} {tree value : Json}
    (found : tree.field? name = some value) : sizeOf value < sizeOf tree := by
  cases tree with
  | string => cases found
  | array => cases found
  | object fields =>
    obtain ⟨front, behind, rfl, -⟩ := List.lookup_eq_some_iff.1 found
    have inside : (name, value) ∈ front ++ (name, value) :: behind :=
      List.mem_append_right _ List.mem_cons_self
    have smaller := List.sizeOf_lt_of_mem inside
    rw [Prod.mk.sizeOf_spec] at smaller
    rw [object.sizeOf_spec]
    omega

/-- The value of a field together with its being smaller than the whole. -/
def child? (name : String) (tree : Json) : Option {value : Json // sizeOf value < sizeOf tree} :=
  (tree.field? name).pmap (fun value smaller => ⟨value, smaller⟩)
    fun _ found => sizeOf_field?_lt found

end Json

/-! ## The parts of a query -/

def Modifier.ofJson? (tree : Json) : Option Modifier := do
  some ⟨← tree.text? "name", ← tree.textOrEmpty? "relation", ← tree.textOrEmpty? "value"⟩

def Prefix.ofJson? (tree : Json) : Option Prefix := do
  some ⟨← tree.textOrEmpty? "name", ← tree.text? "uri"⟩

def SearchClause.ofJson? (tree : Json) : Option SearchClause := do
  some ⟨← tree.textOrEmpty? "index", ← tree.textOrEmpty? "relation",
    ← tree.list? Modifier.ofJson? "modifiers", ← tree.text? "term"⟩

def Clause.ofJson? (tree : Json) : Option Clause := do
  guard tree.isObject
  let prefixes ← tree.list? Prefix.ofJson? "prefixes"
  match tree.field? "searchClause", tree.child? "boolClause" with
  | none, none => some (.matchAll prefixes)
  | some content, none => some (.search prefixes (← SearchClause.ofJson? content))
  | none, some ⟨content, _⟩ =>
    let ⟨left, _⟩ ← content.child? "left"
    let ⟨right, _⟩ ← content.child? "right"
    let operator ← Operator.ofKeyword? (← content.text? "operator")
    let modifiers ← content.list? Modifier.ofJson? "modifiers"
    some (.boolean prefixes (← ofJson? left) operator modifiers (← ofJson? right))
  | some _, some _ => none
termination_by sizeOf tree
decreasing_by all_goals omega

def SortKey.ofJson? (tree : Json) : Option SortKey := do
  some ⟨← tree.text? "index", ← tree.list? Modifier.ofJson? "modifiers"⟩

def Query.ofJson? (tree : Json) : Option Query := do
  some ⟨← Clause.ofJson? (← tree.field? "clause"), ← tree.list? SortKey.ofJson? "sortSpec"⟩

namespace Json

/-! ## Trees that differ in the order of fields -/

/-- Whether two trees differ in nothing but the order of the fields of objects. -/
inductive Same : Json → Json → Prop
  | string (value : String) : Same (.string value) (.string value)
  | array {items others : List Json} (each : List.Forall₂ Same items others) :
    Same (.array items) (.array others)
  | object {fields others : List (String × Json)}
    (each : ∀ name, Option.Rel Same (fields.lookup name) (others.lookup name)) :
    Same (.object fields) (.object others)

namespace Same

theorem refl : ∀ tree : Json, Same tree tree
  | .string value => .string value
  | .array items => .array (List.forall₂_same.2 fun item inside => refl item)
  | .object fields => .object fun name => by
    cases found : fields.lookup name with
    | none => exact .none
    | some value => exact .some (refl value)
termination_by tree => sizeOf tree
decreasing_by
  · have := List.sizeOf_lt_of_mem inside
    simp only [array.sizeOf_spec]
    omega
  · have whole : (Json.object fields).field? name = some value := found
    exact sizeOf_field?_lt whole

theorem of_perm {fields others : List (String × Json)} (reordered : fields.Perm others)
    (distinct : (fields.map Prod.fst).Nodup) : Same (.object fields) (.object others) := by
  have lookup_eq (name : String) : fields.lookup name = others.lookup name := by
    induction reordered with
    | nil => rfl
    | cons field _ ih =>
      rw [List.lookup_cons, List.lookup_cons, ih (List.nodup_cons.1 distinct).2]
    | swap second first rest =>
      obtain ⟨first_name, first_value⟩ := first
      obtain ⟨second_name, second_value⟩ := second
      have differ : first_name ≠ second_name := by
        have apart := (List.nodup_cons.1 distinct).1
        grind
      simp only [List.lookup_cons]
      grind
    | trans one _ ih_one ih_other =>
      exact (ih_one distinct).trans (ih_other ((one.map Prod.fst).nodup_iff.1 distinct))
  refine .object fun name => ?_
  rw [← lookup_eq name]
  cases fields.lookup name with
  | none => exact .none
  | some value => exact .some (refl value)

variable {fields : List (String × Json)} {name : String} {tree : Json}

theorem isObject (same : Same (.object fields) tree) : tree.isObject = true := by
  cases same
  rfl

theorem field?_eq_none (same : Same (.object fields) tree) (absent : fields.lookup name = none) :
    tree.field? name = none := by
  cases same with
  | @object _ others each =>
    have related := each name
    rw [absent] at related
    change others.lookup name = none
    generalize others.lookup name = other at related ⊢
    cases related
    rfl

theorem exists_field? {value : Json} (same : Same (.object fields) tree)
    (found : fields.lookup name = some value) :
    ∃ other, tree.field? name = some other ∧ Same value other := by
  cases same with
  | @object _ others each =>
    have related := each name
    rw [found] at related
    change ∃ other, others.lookup name = some other ∧ Same value other
    generalize others.lookup name = other at related ⊢
    cases related with
    | some same => exact ⟨_, rfl, same⟩

theorem child?_eq_none (same : Same (.object fields) tree) (absent : fields.lookup name = none) :
    tree.child? name = none :=
  Option.pmap_eq_none_iff.2 (same.field?_eq_none absent)

theorem exists_child? {value : Json} (same : Same (.object fields) tree)
    (found : fields.lookup name = some value) :
    ∃ child, tree.child? name = some child ∧ Same value child := by
  obtain ⟨other, at_name, shown⟩ := same.exists_field? found
  have smaller := sizeOf_field?_lt at_name
  exact ⟨⟨other, smaller⟩, Option.pmap_eq_some_iff.2 ⟨other, smaller, at_name, rfl⟩, shown⟩

/-! ## What a field shows -/

theorem text?_eq {value : String} (same : Same (.object fields) tree)
    (found : fields.lookup name = some (.string value)) : tree.text? name = some value := by
  obtain ⟨other, at_name, shown⟩ := same.exists_field? found
  cases shown
  rw [text?, at_name]
  rfl

theorem textOrEmpty?_eq {value : String} (same : Same (.object fields) tree)
    (found : fields.lookup name = (textField name value).lookup name) :
    tree.textOrEmpty? name = some value := by
  unfold textField at found
  split at found
  next empty =>
    rw [textOrEmpty?, same.field?_eq_none found, String.isEmpty_iff.1 empty]
  next =>
    rw [List.lookup_cons_self] at found
    obtain ⟨other, at_name, shown⟩ := same.exists_field? found
    cases shown
    rw [textOrEmpty?, at_name]
    rfl

section

variable {α : Type} {shown : α → Json} {read : Json → Option α}

theorem mapM_eq_some (reads : ∀ value item, Same (shown value) item → read item = some value)
    {values : List α} {items : List Json} (each : List.Forall₂ Same (values.map shown) items) :
    items.mapM read = some values := by
  induction values generalizing items with
  | nil =>
    cases each
    rfl
  | cons value values ih =>
    obtain _ | ⟨first, others⟩ := each
    rw [List.mapM_cons, reads value _ first, ih others]
    rfl

theorem list?_eq {values : List α}
    (reads : ∀ value item, Same (shown value) item → read item = some value)
    (same : Same (.object fields) tree)
    (found : fields.lookup name = (listField name (values.map shown)).lookup name) :
    tree.list? read name = some values := by
  unfold listField at found
  split at found
  next empty =>
    have none_shown : values = [] := List.map_eq_nil_iff.1 (List.isEmpty_iff.1 empty)
    rw [list?, same.field?_eq_none found, none_shown]
  next =>
    rw [List.lookup_cons_self] at found
    obtain ⟨other, at_name, shown_same⟩ := same.exists_field? found
    cases shown_same with
    | array each =>
      rw [list?, at_name]
      exact mapM_eq_some reads each

end

end Same

/-! ## Names of other fields -/

@[simp]
theorem lookup_textField_of_ne {name other : String} (value : String) (differ : other ≠ name) :
    (textField name value).lookup other = none := by
  unfold textField
  split
  · rfl
  · rw [List.lookup_cons, beq_false_of_ne differ]
    rfl

@[simp]
theorem lookup_listField_of_ne {name other : String} (items : List Json) (differ : other ≠ name) :
    (listField name items).lookup other = none := by
  unfold listField
  split
  · rfl
  · rw [List.lookup_cons, beq_false_of_ne differ]
    rfl

end Json

/-! ## Every tree of a query -/

open Json

theorem Modifier.ofJson?_eq {modifier : Modifier} {tree : Json} (same : Same modifier.json tree) :
    Modifier.ofJson? tree = some modifier := by
  have name : tree.text? "name" = some modifier.name := same.text?_eq (by simp)
  have relation : tree.textOrEmpty? "relation" = some modifier.relation :=
    same.textOrEmpty?_eq (by simp [List.lookup_append, List.lookup_cons])
  have value : tree.textOrEmpty? "value" = some modifier.value :=
    same.textOrEmpty?_eq (by simp [List.lookup_append, List.lookup_cons])
  rw [Modifier.ofJson?, name, relation, value]
  rfl

theorem Prefix.ofJson?_eq {declared : Prefix} {tree : Json} (same : Same declared.json tree) :
    Prefix.ofJson? tree = some declared := by
  have name : tree.textOrEmpty? "name" = some declared.name :=
    same.textOrEmpty?_eq (by simp [List.lookup_append, List.lookup_cons])
  have uri : tree.text? "uri" = some declared.uri := same.text?_eq (by simp [List.lookup_append])
  rw [Prefix.ofJson?, name, uri]
  rfl

theorem Modifier.list?_eq {modifiers : List Modifier} {fields : List (String × Json)} {tree : Json}
    (same : Same (.object fields) tree)
    (found : fields.lookup "modifiers" = (Modifier.jsonField modifiers).lookup "modifiers") :
    tree.list? Modifier.ofJson? "modifiers" = some modifiers :=
  same.list?_eq (fun _ _ => Modifier.ofJson?_eq) found

@[simp]
theorem Modifier.lookup_jsonField_of_ne {other : String} (modifiers : List Modifier)
    (differ : other ≠ "modifiers") : (Modifier.jsonField modifiers).lookup other = none :=
  lookup_listField_of_ne _ differ

@[simp]
theorem Prefix.lookup_jsonField_of_ne {other : String} (prefixes : List Prefix)
    (differ : other ≠ "prefixes") : (Prefix.jsonField prefixes).lookup other = none :=
  lookup_listField_of_ne _ differ

theorem SearchClause.ofJson?_eq {search : SearchClause} {tree : Json}
    (same : Same search.json tree) : SearchClause.ofJson? tree = some search := by
  have index : tree.textOrEmpty? "index" = some search.index :=
    same.textOrEmpty?_eq (by simp [List.lookup_append, List.lookup_cons])
  have relation : tree.textOrEmpty? "relation" = some search.relation :=
    same.textOrEmpty?_eq (by simp [List.lookup_append, List.lookup_cons])
  have modifiers : tree.list? Modifier.ofJson? "modifiers" = some search.modifiers :=
    Modifier.list?_eq same (by simp [List.lookup_append, List.lookup_cons])
  have term : tree.text? "term" = some search.term := same.text?_eq (by simp [List.lookup_append])
  rw [SearchClause.ofJson?, index, relation, modifiers, term]
  rfl

theorem SortKey.ofJson?_eq {key : SortKey} {tree : Json} (same : Same key.json tree) :
    SortKey.ofJson? tree = some key := by
  have index : tree.text? "index" = some key.index := same.text?_eq (by simp)
  have modifiers : tree.list? Modifier.ofJson? "modifiers" = some key.modifiers :=
    Modifier.list?_eq same (by simp [List.lookup_cons])
  rw [SortKey.ofJson?, index, modifiers]
  rfl

theorem Operator.ofKeyword?_keyword (operator : Operator) :
    Operator.ofKeyword? operator.keyword = some operator := by
  cases operator <;> decide +kernel

theorem Clause.ofJson?_eq {clause : Clause} {tree : Json} (same : Same clause.json tree) :
    Clause.ofJson? tree = some clause := by
  induction clause generalizing tree with
  | search prefixes search =>
    have object : tree.isObject = true := same.isObject
    have declared : tree.list? Prefix.ofJson? "prefixes" = some prefixes :=
      same.list?_eq (fun _ _ => Prefix.ofJson?_eq)
        (by simp [Prefix.jsonField, List.lookup_append, List.lookup_cons])
    obtain ⟨content, at_search, shown⟩ :
        ∃ content, tree.field? "searchClause" = some content ∧ Same search.json content :=
      same.exists_field? (by simp [List.lookup_append])
    have no_boolean : tree.child? "boolClause" = none :=
      same.child?_eq_none (by simp [List.lookup_append, List.lookup_cons])
    rw [Clause.ofJson?, object, declared, at_search, no_boolean]
    simp [SearchClause.ofJson?_eq shown]
  | boolean prefixes left operator modifiers right ih_left ih_right =>
    have object : tree.isObject = true := same.isObject
    have declared : tree.list? Prefix.ofJson? "prefixes" = some prefixes :=
      same.list?_eq (fun _ _ => Prefix.ofJson?_eq) (by simp [Prefix.jsonField, List.lookup_cons])
    have no_search : tree.field? "searchClause" = none :=
      same.field?_eq_none (by simp [List.lookup_cons])
    obtain ⟨content, at_boolean, shown⟩ := same.exists_child? List.lookup_cons_self
    obtain ⟨first, at_left, left_shown⟩ :
        ∃ first, content.1.child? "left" = some first ∧ Same left.json first :=
      shown.exists_child? List.lookup_cons_self
    obtain ⟨second, at_right, right_shown⟩ :
        ∃ second, content.1.child? "right" = some second ∧ Same right.json second :=
      shown.exists_child? (by simp [List.lookup_append, List.lookup_cons])
    have keyword : content.1.text? "operator" = some operator.keyword :=
      shown.text?_eq (by simp [List.lookup_append, List.lookup_cons])
    have added : content.1.list? Modifier.ofJson? "modifiers" = some modifiers :=
      Modifier.list?_eq shown (by simp [List.lookup_append, List.lookup_cons])
    rw [Clause.ofJson?, object, declared, no_search, at_boolean]
    simp [at_left, at_right, keyword, added, Operator.ofKeyword?_keyword, ih_left left_shown,
      ih_right right_shown]
  | matchAll prefixes =>
    have object : tree.isObject = true := same.isObject
    have declared : tree.list? Prefix.ofJson? "prefixes" = some prefixes :=
      same.list?_eq (fun _ _ => Prefix.ofJson?_eq) rfl
    have no_search : tree.field? "searchClause" = none := same.field?_eq_none (by simp)
    have no_boolean : tree.child? "boolClause" = none := same.child?_eq_none (by simp)
    rw [Clause.ofJson?, object, declared, no_search, no_boolean]
    rfl

theorem Query.ofJson?_eq {query : Query} {tree : Json} (same : Same query.json tree) :
    Query.ofJson? tree = some query := by
  obtain ⟨shown, at_clause, same_clause⟩ :
      ∃ shown, tree.field? "clause" = some shown ∧ Same query.clause.json shown :=
    same.exists_field? List.lookup_cons_self
  have keys : tree.list? SortKey.ofJson? "sortSpec" = some query.sortKeys :=
    same.list?_eq (fun _ _ => SortKey.ofJson?_eq) (by simp [List.lookup_cons])
  rw [Query.ofJson?, at_clause, keys]
  simp [Clause.ofJson?_eq same_clause]

namespace Query

/-- No two queries share a tree, not even up to the order of fields, and every tree that shows a
query is read back as that query. -/
theorem json_injective (query : Query) :
    (∀ other : Query, query.json = other.json ↔ query = other) ∧
      (∀ other : Query, Same query.json other.json ↔ query = other) ∧
        ∀ tree, Same query.json tree → ofJson? tree = some query := by
  have unique : ∀ other : Query, Same query.json other.json → query = other := by
    intro other same
    have read_other := ofJson?_eq same
    rw [ofJson?_eq (Same.refl other.json)] at read_other
    exact (Option.some.inj read_other).symm
  refine ⟨fun other => ⟨fun equal => ?_, congrArg json⟩, fun other => ⟨unique other, ?_⟩,
    fun tree => ofJson?_eq⟩
  · exact unique other (equal ▸ Same.refl query.json)
  · rintro rfl
    exact Same.refl _

/-- A match-all clause beside a search for nothing, with every text empty and the keys in front. -/
theorem json_injective_keys_first :
    ofJson? (.object [("sortSpec", .array [.object [("index", .string "")]]),
      ("clause", .object [
        ("boolClause", .object [
          ("left", .object []),
          ("modifiers", .array [.object [("name", .string "")]]),
          ("operator", .string "prox"),
          ("right", .object [("searchClause", .object [("term", .string "")])])]),
        ("prefixes", .array [.object [("uri", .string "")]])])]) =
      some ⟨.boolean [⟨"", ""⟩] (.matchAll []) .prox [⟨"", "", ""⟩] (.search [] ⟨"", "", [], ""⟩),
        [⟨"", []⟩]⟩ := by
  refine (json_injective _).2.2 _ ?_
  exact Same.of_perm (List.Perm.swap _ _ []) (by decide)

end Query

end ContextualQuery
