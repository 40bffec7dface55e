import ContextualQuery.Proofs.Results
import ContextualQuery.Query.Writer
import ContextualQuery.Sql.Writer
import ContextualQuery.Xcql.Printer

/-!
# Loops over spines

The loops that translate, write and print chains along their spines give what the trees give: the
condition of a clause, its canonical text and its element.  Each loop over a chain is first taken
apart into the loop over its left operand and what stands around it; the rest is one induction on
the tree.
-/

namespace ContextualQuery

variable {whole : Clause}

/-! ## Conditions -/

namespace Definition

variable {definition : Definition}

section

variable (write : (operand : Clause) → sizeOf operand < sizeOf whole → Nat → List Value →
  Except SqlError (String × List Value))

/-- The text that is there before a loop stays in front. -/
theorem foldlM_writeLink (links : List ((Joiner × Link whole) × Nat)) (first start : Nat)
    (front sql : String) (arguments : List Value) :
    links.foldlM (writeLink write first start) (front ++ sql, arguments) =
      (links.foldlM (writeLink write first start) (sql, arguments)).map
        fun (sql, arguments) => (front ++ sql, arguments) := by
  induction links generalizing sql arguments with
  | nil => rfl
  | cons link links ih =>
    obtain ⟨⟨joiner, link⟩, depth⟩ := link
    simp only [List.foldlM_cons, writeLink]
    cases write link.right link.smaller (first + arguments.length - start) arguments with
    | error => rfl
    | ok result =>
      simp only [ok_bind]
      rw [← ih]
      congr 2
      split <;> simp only [String.append_assoc]

theorem opened_succ {links : Nat} {clause : Clause}
    (joined : 0 < links ↔ clause.isBoolean = true) (leaf : String) :
    String.ofList (List.replicate links '(') ++ leaf =
      Condition.bracket clause.isBoolean "(" ++
        (String.ofList (List.replicate (links - 1) '(') ++ leaf) := by
  cases links with
  | zero =>
    have alone : clause.isBoolean = false := by simpa using joined
    simp [alone, Condition.bracket]
  | succ links =>
    have boolean : clause.isBoolean = true := by simpa using joined
    rw [boolean, Nat.add_sub_cancel, List.replicate_succ, String.ofList_cons,
      ← String.append_assoc]
    rfl

theorem closed_eq {links : Nat} {clause : Clause}
    (joined : 0 < links ↔ clause.isBoolean = true) (sql : String) :
    (if links > 0 then sql ++ ")" else sql) =
      sql ++ Condition.bracket clause.isBoolean ")" := by
  simp only [gt_iff_lt, joined, Condition.bracket]
  split <;> simp

/-- The loop over a chain is the loop over its left operand, in brackets if that is a chain itself,
with the last link behind it. -/
theorem writeChain_boolean (prefixes : List Prefix) (left : Clause) (link : Link whole)
    (fits : sizeOf (Clause.boolean prefixes left link.operator link.modifiers link.right) ≤
      sizeOf whole)
    (leftFits : sizeOf left ≤ sizeOf whole) (first : Nat) (arguments : List Value) :
    definition.writeChain write
        (.boolean prefixes left link.operator link.modifiers link.right) fits first arguments = (do
      let joiner ← Joiner.ofOperator link.operator
      let (leftText, extended) ← definition.writeChain write left leftFits first arguments
      let (rightText, extended) ←
        write link.right link.smaller (first + extended.length - arguments.length) extended
      .ok (Condition.bracketed left.isBoolean leftText ++ " " ++ joiner.keyword ++ " " ++
        Condition.bracketed link.right.isBoolean rightText, extended)) := by
  simp only [writeChain, Clause.spine, Clause.head, if_true, List.mapM_cons]
  cases Joiner.ofOperator link.operator with
  | error => rfl
  | ok joiner =>
    cases linked : (Clause.spine (fun _ => true) left leftFits).mapM fun link =>
      (Joiner.ofOperator link.operator).map (·, link) with
    | error => rfl
    | ok links =>
      cases definition.writeLeaf first arguments (left.head fun _ => true) with
      | error => rfl
      | ok written =>
        obtain ⟨leaf, extended⟩ := written
        have joined : 0 < links.length ↔ left.isBoolean = true := by
          rw [← (mapM_eq_ok.1 linked).length_eq]
          exact Clause.length_spine_pos left leftFits
        simp only [Except.map, ok_bind, pure_bind, List.length_cons, Nat.add_sub_cancel,
          List.reverse_cons, List.zipIdx_append, List.foldlM_append]
        rw [opened_succ joined, foldlM_writeLink]
        cases links.reverse.zipIdx.foldlM (writeLink write first arguments.length)
          (String.ofList (List.replicate (links.length - 1) '(') ++ leaf, extended) with
        | error => rfl
        | ok state =>
          simp only [Except.map, ok_bind, List.zipIdx_cons, List.zipIdx_nil, List.foldlM_cons,
            List.foldlM_nil, writeLink, List.length_reverse, Nat.zero_add, bind_pure,
            Condition.bracketed_eq, closed_eq joined]

end

theorem condition_boolean (prefixes : List Prefix) (left : Clause) (operator : Operator)
    (modifiers : List Modifier) (right : Clause) :
    definition.condition (.boolean prefixes left operator modifiers right) = (do
      let joiner ← Joiner.ofOperator operator
      let leftCondition ← definition.condition left
      let rightCondition ← definition.condition right
      .ok (.join leftCondition joiner rightCondition)) := by
  simp only [condition, Clause.checkChain, Clause.unsupported?, assemble, Joiner.ofOperator]
  cases Joiner.ofOperator? operator with
  | none => rfl
  | some joiner =>
    simp only [ok_bind]
    cases left.unsupported? with
    | some => rfl
    | none =>
      cases definition.assemble left with
      | error => rfl
      | ok leftCondition =>
        cases right.unsupported? with
        | some => rfl
        | none => rfl

theorem isJoin_of_condition {clause : Clause} {condition : Condition}
    (made : definition.condition clause = .ok condition) :
    condition.isJoin = clause.isBoolean := by
  cases clause with
  | search prefixes search =>
    obtain ⟨_, -, made⟩ := bind_eq_ok.1 made
    obtain ⟨predicate, -, rfl⟩ := map_eq_ok.1 made
    rfl
  | matchAll =>
    cases made
    rfl
  | boolean prefixes left operator modifiers right =>
    rw [condition_boolean] at made
    obtain ⟨_, -, made⟩ := bind_eq_ok.1 made
    obtain ⟨_, -, made⟩ := bind_eq_ok.1 made
    obtain ⟨_, -, made⟩ := bind_eq_ok.1 made
    cases made
    rfl

theorem writeChain_eq (clause : Clause) (fits : sizeOf clause ≤ sizeOf whole) (first : Nat)
    (arguments : List Value) :
    definition.writeChain (fun operand _ => definition.write operand) clause fits first arguments =
      (definition.condition clause).map fun condition =>
        (condition.text first, arguments ++ condition.arguments) := by
  induction clause generalizing whole first arguments with
  | search prefixes search =>
    simp only [writeChain, Clause.spine, Clause.head, writeLeaf, condition, Clause.checkChain,
      Clause.unsupported?, assemble, List.mapM_nil, pure_bind, ok_bind]
    cases definition.predicate search with
    | error => rfl
    | ok predicate => simp [Except.map, ok_bind, Condition.text]
  | matchAll =>
    simp only [writeChain, Clause.spine, Clause.head, writeLeaf, condition, Clause.checkChain,
      Clause.unsupported?, assemble, List.mapM_nil, pure_bind, ok_bind, Except.map,
      Condition.arguments_always, List.append_nil]
    rfl
  | boolean prefixes left operator modifiers right leftEq rightEq =>
    have smaller := Clause.sizeOf_operands_lt prefixes left operator modifiers right
    have leftFits := Nat.le_trans (Nat.le_of_lt smaller.1) fits
    refine (writeChain_boolean (fun operand _ => definition.write operand) prefixes left
      ⟨operator, modifiers, right, Nat.lt_of_lt_of_le smaller.2 fits⟩ fits leftFits first
      arguments).trans ?_
    simp only [leftEq leftFits, condition_boolean]
    cases Joiner.ofOperator operator with
    | error => rfl
    | ok joiner =>
      cases leftMade : definition.condition left with
      | error => rfl
      | ok leftCondition =>
        simp only [Except.map, ok_bind, write, rightEq (Nat.le_refl _)]
        cases rightMade : definition.condition right with
        | error => rfl
        | ok rightCondition =>
          have next : first + (arguments ++ leftCondition.arguments).length - arguments.length =
              first + leftCondition.arguments.length := by
            rw [List.length_append]
            omega
          simp only [ok_bind, next, Condition.text, Condition.arguments_join,
            isJoin_of_condition leftMade, isJoin_of_condition rightMade, List.append_assoc]

/-- Writing a clause gives the text of its condition and adds the condition's arguments. -/
theorem write_eq (clause : Clause) (first : Nat) (arguments : List Value) :
    definition.write clause first arguments =
      (definition.condition clause).map fun condition =>
        (condition.text first, arguments ++ condition.arguments) := by
  rw [write, writeChain_eq]

/-- A query is translated by writing its clause. -/
theorem translate_eq_write (query : Query) (first : Nat) :
    definition.translate query first =
      if query.sortKeys.isEmpty then
        (definition.write query.clause first []).map fun (text, arguments) => ⟨text, arguments⟩
      else .error .sortingUnsupported := by
  rw [translate, write_eq]
  cases definition.condition query.clause with
  | error => rfl
  | ok condition => simp [Condition.write_eq, ok_bind, Except.map]

end Definition

/-! ## Canonical text -/

namespace Clause

/-- The loop over the links of a left operand writes that operand. -/
theorem foldl_spine (clause : Clause) (fits : sizeOf clause ≤ sizeOf whole) (sofar : String) :
    (spine List.isEmpty clause fits).reverse.foldl
        (fun sofar link => link.right.write true
          (sofar ++ " " ++ link.operator.keyword ++ Modifier.listText link.modifiers ++ " "))
        ((clause.head List.isEmpty).write false sofar) = clause.write false sofar := by
  induction clause generalizing whole sofar with
  | search | matchAll => rfl
  | boolean prefixes left operator modifiers right leftEq _ =>
    cases prefixes with
    | cons => rfl
    | nil =>
      rw [write]
      simp only [spine, head, List.isEmpty_nil, if_true, List.reverse_cons, List.foldl_append,
        List.foldl_cons, List.foldl_nil, leftEq, writeChain]
      simp [writePrefixes, Prefix.listText]

/-- A chain is written as its left operand with the last operator and the right operand behind. -/
theorem writeChain_eq (left : Clause) (operator : Operator) (modifiers : List Modifier)
    (right : Clause) (fits : sizeOf left < sizeOf whole ∧ sizeOf right < sizeOf whole)
    (sofar : String) :
    writeChain (fun operand _ => operand.write) left operator modifiers right fits sofar =
      right.write true (left.write false sofar ++ " " ++ operator.keyword ++
        Modifier.listText modifiers ++ " ") := by
  simp only [writeChain, List.reverse_cons, List.foldl_append, List.foldl_cons, List.foldl_nil,
    foldl_spine]

theorem text_allRecords : SearchClause.allRecords.text = Index.allRecords ++ " = 1" := by
  decide +kernel

/-- Writing a clause adds its canonical text, in brackets where it needs those asked for. -/
theorem write_eq (clause : Clause) (brackets : Bool) (sofar : String) :
    clause.write brackets sofar =
      sofar ++ Condition.bracketed (brackets && clause.needsBrackets) clause.text := by
  induction clause generalizing brackets sofar with
  | search declared clause =>
    cases brackets <;> cases declared <;>
      simp [write, writePrefixes, Condition.bracketed, needsBrackets, isBoolean, prefixes, text,
        Prefix.listText, String.append_assoc]
  | matchAll declared =>
    cases brackets <;> cases declared <;>
      simp [write, writePrefixes, Condition.bracketed, needsBrackets, isBoolean, prefixes, text,
        text_allRecords, Prefix.listText, String.append_assoc]
  | boolean declared left operator modifiers right leftEq rightEq =>
    cases brackets <;> cases declared <;>
      simp [write, writePrefixes, writeChain_eq, leftEq, rightEq, Condition.bracketed,
        needsBrackets, isBoolean, prefixes, text, Prefix.listText, String.append_assoc]

end Clause

theorem SortKey.foldl_append (keys : List SortKey) (sofar : String) :
    keys.foldl (fun sofar key => sofar ++ " " ++ key.text) sofar =
      sofar ++ String.join (keys.map fun key => " " ++ key.text) := by
  induction keys generalizing sofar with
  | nil => simp
  | cons key keys ih =>
    rw [List.foldl_cons, ih, List.map_cons, String.join_cons]
    simp only [String.append_assoc]

/-- A query is written as its canonical text. -/
theorem Query.written_eq (query : Query) : query.written = query.text := by
  rw [written, text, Clause.write_eq, SortKey.foldl_append, SortKey.listText]
  split <;> simp [Condition.bracketed, String.append_assoc]

/-! ## Elements -/

mutual

theorem Element.linesBefore_eq (element : Element) (level : Nat) (rest : List Line) :
    element.linesBefore level rest = element.linesBefore level [] ++ rest := by
  cases element with
  | leaf => rfl
  | branch tag attributes children =>
    rw [linesBefore, linesBefore, listLinesBefore_eq children, listLinesBefore_eq children _ [_]]
    simp

theorem Element.listLinesBefore_eq (elements : List Element) (level : Nat) (rest : List Line) :
    listLinesBefore level elements rest = listLinesBefore level elements [] ++ rest := by
  cases elements with
  | nil => rfl
  | cons element others =>
    rw [listLinesBefore, listLinesBefore, Element.linesBefore_eq element, listLinesBefore_eq others,
      Element.linesBefore_eq element level (listLinesBefore _ _ [])]
    simp

end

namespace Clause

/-- The lines of a triple are those of its left operand between the lines that its link opens and
the lines that its link closes. -/
theorem linesBefore_boolean (prefixes : List Prefix) (left : Clause) (link : Link whole)
    (level : Nat) :
    (boolean prefixes left link.operator link.modifiers link.right).element.linesBefore level [] =
      link.openingLines level ++ left.element.linesBefore (level + 2) [] ++
        Link.closingLines (link.right.element.linesBefore (level + 2) []) level := by
  simp only [element, Element.linesBefore, Element.listLinesBefore, Link.openingLines,
    Link.closingLines]
  rw [Element.linesBefore_eq left.element _ (_ :: _),
    Element.linesBefore_eq link.right.element _ (_ :: _),
    Element.listLinesBefore_eq (Modifier.elements _) _ (_ :: _),
    Element.listLinesBefore_eq (Modifier.elements _) _ [_, _]]
  simp

/-- The loop over a chain prints what the loop over its left operand prints two levels further in,
between the lines that the last link opens and those that it closes. -/
theorem printChain_boolean
    (print : (operand : Clause) → sizeOf operand < sizeOf whole → Nat → List Line)
    (prefixes : List Prefix) (left : Clause) (link : Link whole)
    (fits : sizeOf (boolean prefixes left link.operator link.modifiers link.right) ≤ sizeOf whole)
    (leftFits : sizeOf left ≤ sizeOf whole) (level : Nat) :
    printChain print (boolean prefixes left link.operator link.modifiers link.right) fits level =
      link.openingLines level ++ printChain print left leftFits (level + 2) ++
        Link.closingLines (print link.right link.smaller (level + 2)) level := by
  have deeper (depth : Nat) : level + 2 * (depth + 1) = level + 2 + 2 * depth := by omega
  simp only [printChain, spine, head, if_true, List.zipIdx_cons, List.zipIdx_succ,
    List.reverse_cons, List.flatMap_append, List.flatMap_cons, List.flatMap_nil,
    ← List.map_reverse, List.flatMap_map, deeper, List.length_cons]
  simp

theorem printChain_eq (clause : Clause) (fits : sizeOf clause ≤ sizeOf whole) (level : Nat) :
    printChain (fun operand _ => operand.print) clause fits level =
      clause.element.linesBefore level [] := by
  induction clause generalizing whole level with
  | search | matchAll => simp [printChain, spine, head, leafElement, element]
  | boolean prefixes left operator modifiers right leftEq rightEq =>
    have smaller := sizeOf_operands_lt prefixes left operator modifiers right
    have leftFits := Nat.le_trans (Nat.le_of_lt smaller.1) fits
    let link : Link whole := ⟨operator, modifiers, right, Nat.lt_of_lt_of_le smaller.2 fits⟩
    calc printChain (fun operand _ => operand.print) _ fits level
        = link.openingLines level ++
            printChain (fun operand _ => operand.print) left leftFits (level + 2) ++
          Link.closingLines (right.print (level + 2)) level :=
        printChain_boolean _ prefixes left link fits leftFits level
      _ = link.openingLines level ++ left.element.linesBefore (level + 2) [] ++
          Link.closingLines (right.element.linesBefore (level + 2) []) level := by
        rw [leftEq, print, rightEq]
      _ = _ := (linesBefore_boolean prefixes left link level).symm

/-- A clause is printed as its element. -/
theorem print_eq (clause : Clause) (level : Nat) :
    clause.print level = clause.element.linesBefore level [] := by
  rw [print, printChain_eq]

end Clause
end ContextualQuery
