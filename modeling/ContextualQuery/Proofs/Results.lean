import Mathlib.Data.List.Forall2

/-!
# Results

Steps that can fail, one behind the other: what a whole gives back tells what its parts gave.
-/

namespace ContextualQuery

theorem ok_bind {ε α β : Type} (value : α) (next : α → Except ε β) :
    (Except.ok value >>= next) = next value := rfl

theorem bind_eq_ok {ε α β : Type} {first : Except ε α} {next : α → Except ε β} {result : β} :
    (first >>= next) = .ok result ↔ ∃ value, first = .ok value ∧ next value = .ok result := by
  cases first with
  | error failure => simp [bind, Except.bind]
  | ok value => simp [bind, Except.bind]

theorem map_eq_ok {ε α β : Type} {first : Except ε α} {change : α → β} {result : β} :
    first.map change = .ok result ↔ ∃ value, first = .ok value ∧ change value = result := by
  cases first with
  | error failure => simp [Except.map]
  | ok value => simp [Except.map]

theorem bind_eq_error {ε α β : Type} {first : Except ε α} {next : α → Except ε β} {failure : ε} :
    (first >>= next) = .error failure ↔
      first = .error failure ∨ ∃ value, first = .ok value ∧ next value = .error failure := by
  cases first with
  | error other => simp [bind, Except.bind]
  | ok value => simp [bind, Except.bind]

theorem map_eq_error {ε α β : Type} {first : Except ε α} {change : α → β} {failure : ε} :
    first.map change = .error failure ↔ first = .error failure := by
  cases first with
  | error other => simp [Except.map]
  | ok value => simp [Except.map]

theorem mapError_eq_ok {ε δ α : Type} {first : Except ε α} {change : ε → δ} {result : α} :
    first.mapError change = .ok result ↔ first = .ok result := by
  cases first with
  | error failure =>
    constructor
    · intro same
      cases same
    · intro same
      cases same
  | ok value =>
    constructor
    · intro same
      cases same
      rfl
    · intro same
      cases same
      rfl

theorem mapError_eq_error {ε δ α : Type} {first : Except ε α} {change : ε → δ} {failure : δ} :
    first.mapError change = .error failure ↔
      ∃ cause, first = .error cause ∧ change cause = failure := by
  cases first with
  | error cause => simp [Except.mapError]
  | ok value => simp [Except.mapError]

theorem mapM_eq_ok {ε α β : Type} {step : α → Except ε β} {values : List α} {results : List β} :
    values.mapM step = .ok results ↔
      List.Forall₂ (fun value result => step value = .ok result) values results := by
  induction values generalizing results with
  | nil =>
    rw [List.mapM_nil, List.forall₂_nil_left_iff]
    exact ⟨fun same => (Except.ok.inj same).symm, fun same => congrArg Except.ok same.symm⟩
  | cons value values ih =>
    simp only [List.mapM_cons, bind_eq_ok, ih, List.forall₂_cons_left_iff]
    constructor
    · rintro ⟨result, made, others, rest, same⟩
      exact ⟨result, others, made, rest, (Except.ok.inj same).symm⟩
    · rintro ⟨result, others, made, rest, rfl⟩
      exact ⟨result, made, others, rest, rfl⟩

theorem exists_ok_of_mapM {ε α β : Type} {step : α → Except ε β} {values : List α}
    {results : List β} (made : values.mapM step = .ok results) :
    ∀ value ∈ values, ∃ result, step value = .ok result := by
  rw [mapM_eq_ok] at made
  induction made with
  | nil => simp
  | cons same _ ih => exact List.forall_mem_cons.2 ⟨⟨_, same⟩, ih⟩

theorem exists_error_of_mapM {ε α β : Type} {step : α → Except ε β} {values : List α}
    {failure : ε} (failed : values.mapM step = .error failure) :
    ∃ value ∈ values, step value = .error failure := by
  induction values with
  | nil => cases failed
  | cons value values ih =>
    rw [List.mapM_cons] at failed
    rcases bind_eq_error.1 failed with first | ⟨result, -, others⟩
    · exact ⟨value, List.mem_cons_self, first⟩
    · rcases bind_eq_error.1 others with later | ⟨_, _, done⟩
      · obtain ⟨other, member, fails⟩ := ih later
        exact ⟨other, List.mem_cons_of_mem _ member, fails⟩
      · cases done

theorem eq_map_of_mapM {ε α β : Type} {step : α → Except ε β} {change : α → β} {values : List α}
    {results : List β} (made : values.mapM step = .ok results)
    (each : ∀ value result, step value = .ok result → result = change value) :
    results = values.map change := by
  rw [mapM_eq_ok] at made
  induction made with
  | nil => rfl
  | cons same _ ih => rw [List.map_cons, each _ _ same, ih]

/-- Changing the values in a way that no successful step notices. -/
theorem mapM_map_of_ok {ε α β γ : Type} {step : α → Except ε β} {after : γ → Except ε β}
    {change : α → γ} {values : List α} {results : List β}
    (same : ∀ value result, step value = .ok result → after (change value) = .ok result)
    (made : values.mapM step = .ok results) : (values.map change).mapM after = .ok results := by
  rw [mapM_eq_ok] at made ⊢
  rw [List.forall₂_map_left_iff]
  exact made.imp same

theorem eq_none_of_isSome_eq {α β : Type} {first : Option α} {second : Option β}
    (same : first.isSome = second.isSome) (missing : second = none) : first = none := by
  rw [missing] at same
  exact Option.isNone_iff_eq_none.1 (Option.isSome_eq_false_iff.1 same)

theorem eq_ok_of_toOption {ε α : Type} {result : Except ε α} {value : α}
    (same : result.toOption = some value) : result = .ok value := by
  cases result with
  | error failure => cases same
  | ok other => exact congrArg _ (Option.some.inj same)

end ContextualQuery
