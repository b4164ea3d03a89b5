import Mathlib.Data.List.Forall2

/-
  Steps that may fail.

  Steps that are made one after the other come to a result if
  each of them does, and the first one that fails is the fault
  of all.

  Main results:
    * `Spreadsheet.bind_eq_ok_iff`
    * `Spreadsheet.bind_eq_error_iff`
    * `Spreadsheet.map_eq_ok_iff`
    * `Spreadsheet.mapError_eq_ok_iff`
    * `Spreadsheet.mapM_eq_ok_iff`
    * `Spreadsheet.mapM_eq_error_iff`
-/

------------------------------------------------------------
-- Two Steps
------------------------------------------------------------

namespace Spreadsheet

variable {ε α β : Type}
variable {first : Except ε α}
variable {fault : ε}
variable {result : β}

/- Two steps come to a result if both do. -/
theorem bind_eq_ok_iff
    {next : α → Except ε β} :
    first >>= next = .ok result ↔
      ∃ found, first = .ok found ∧ next found = .ok result := by
  cases first with
  | error fault =>
      constructor
      · rintro ⟨⟩
      · rintro ⟨_, ⟨⟩, _⟩
  | ok found =>
      constructor
      · exact fun hNext => ⟨found, rfl, hNext⟩
      · rintro ⟨_, ⟨⟩, hNext⟩
        exact hNext

/- Two steps fail if the first does, or the second behind it. -/
theorem bind_eq_error_iff
    {next : α → Except ε β} :
    first >>= next = .error fault ↔
      first = .error fault ∨
        ∃ found, first = .ok found ∧
          next found = .error fault := by
  cases first with
  | error other =>
      constructor
      · intro hOther
        cases hOther
        exact Or.inl rfl
      · rintro (⟨⟨⟩⟩ | ⟨_, ⟨⟩, _⟩)
        rfl
  | ok found =>
      constructor
      · intro hNext
        exact Or.inr ⟨found, rfl, hNext⟩
      · rintro (⟨⟨⟩⟩ | ⟨_, ⟨⟩, hNext⟩)
        exact hNext

/- A step comes to a result through one that it comes to. -/
theorem map_eq_ok_iff
    {f : α → β} :
    first.map f = .ok result ↔
      ∃ found, first = .ok found ∧ f found = result := by
  cases first with
  | error fault =>
      constructor
      · rintro ⟨⟩
      · rintro ⟨_, ⟨⟩, _⟩
  | ok found => simp [Except.map]

/- Another name for its fault does not change a result. -/
theorem mapError_eq_ok_iff
    {ε' : Type}
    {f : ε → ε'}
    {result : α} :
    first.mapError f = .ok result ↔ first = .ok result := by
  cases first with
  | error fault =>
      constructor
      · rintro ⟨⟩
      · rintro ⟨⟩
  | ok found =>
      constructor
      · rintro ⟨⟩
        rfl
      · rintro ⟨⟩
        rfl

end Spreadsheet

------------------------------------------------------------
-- Many Steps
------------------------------------------------------------

namespace Spreadsheet

variable {ε α β : Type}
variable {fault : ε}
variable {step : α → Except ε β}
variable {items : List α}

/- The same step for each item comes to results if all do. -/
theorem mapM_eq_ok_iff
    {found : List β} :
    items.mapM step = .ok found ↔
      List.Forall₂ (fun item value => step item = .ok value)
        items found := by
  constructor
  · intro hItems
    induction items generalizing found with
    | nil =>
        cases hItems
        exact .nil
    | cons first items ih =>
        rw [List.mapM_cons, bind_eq_ok_iff] at hItems
        rcases hItems with ⟨value, hFirst, hRest⟩
        rcases bind_eq_ok_iff.mp hRest with
          ⟨values, hOthers, hFound⟩
        cases hFound
        exact .cons hFirst (ih hOthers)
  · intro hItems
    induction hItems with
    | nil => rfl
    | cons hFirst _ ih =>
        rw [List.mapM_cons, hFirst, ih]
        rfl

/- Otherwise the first item that comes to none is at fault. -/
theorem mapM_eq_error_iff :
    items.mapM step = .error fault ↔
      ∃ front item back found,
        items = front ++ item :: back ∧
        List.Forall₂ (fun item value => step item = .ok value)
          front found ∧
        step item = .error fault := by
  constructor
  · intro hItems
    induction items with
    | nil => cases hItems
    | cons first items ih =>
        rw [List.mapM_cons, bind_eq_error_iff] at hItems
        rcases hItems with hFirst | ⟨value, hFirst, hRest⟩
        · exact ⟨[], first, items, [], rfl, .nil, hFirst⟩
        · rcases bind_eq_error_iff.mp hRest with
            hOthers | ⟨_, _, ⟨⟩⟩
          rcases ih hOthers with
            ⟨front, item, back, found, rfl, hFront, hItem⟩
          exact ⟨first :: front, item, back, value :: found,
            rfl, .cons hFirst hFront, hItem⟩
  · rintro ⟨front, item, back, found, rfl, hFront, hItem⟩
    rw [List.mapM_append, mapM_eq_ok_iff.mpr hFront,
      List.mapM_cons, hItem]
    rfl

end Spreadsheet
