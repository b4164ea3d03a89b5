import Spreadsheet.Proofs.Address.Area
import Spreadsheet.Proofs.Evaluation.Formula

/-
  Areas as arguments.

  A function that takes the values of areas one by one does
  not see where they come from.  So an area as an argument of
  such a function can be replaced by the references to its
  cells, row by row: the same cells are asked about in the
  same order among the other arguments.

  Key definitions include:
    * `Spreadsheet.Area.references`
    * `Spreadsheet.Expr.itemValues`
    * `Spreadsheet.Expr.ListsCells`

  Main results:
    * `Spreadsheet.Expr.itemValues_references`
    * `Spreadsheet.Expr.value_call_of_isFlat`
    * `Spreadsheet.Expr.ListsCells.value_eq`
-/

------------------------------------------------------------
-- References To The Cells Of Areas
------------------------------------------------------------

namespace Spreadsheet

/- The references to the cells of an area, row by row. -/
def Area.references
    (area : Area) :
    List Expr :=
  area.cells.map fun cell => .cell cell.label

namespace Expr

/- A label stands for its cell in a formula, as it is. -/
theorem cellValue_label
    {cell : Cell}
    (hCell : cell.IsLabelled) :
    cellValue cell.label = .ofCell cell := by
  have hUpper : upperName cell.label = cell.label := by
    rw [upperName, Lexeme.upperText,
      Cell.upper_label hCell.row_nonneg, String.ofList_toList]
  rw [cellValue, hUpper, Inquiry.ofLabel,
    Cell.ofLabel_label hCell]
  rfl

/- A well-formed area stands for the values of its cells. -/
theorem areaValues_eq
    {written : String}
    {area : Area}
    (hArea : Area.ofText (upperName written) = .ok area) :
    areaValues written = area.cells.mapM .ofCell := by
  rw [areaValues, Inquiry.ofArea, hArea]
  rfl

end Expr

end Spreadsheet

------------------------------------------------------------
-- Values Of Arguments One By One
------------------------------------------------------------

namespace Spreadsheet

namespace Expr

/- The values of arguments, those of areas one by one. -/
def itemValues
    (arguments : List Expr) :
    Inquiry (List Value) :=
  Argument.flatten <$> argumentValues arguments

theorem itemValues_nil :
    itemValues [] = pure [] := rfl

theorem itemValues_cons
    (argument : Expr)
    (rest : List Expr) :
    itemValues (argument :: rest) =
      argumentValue argument >>= fun first =>
        itemValues rest >>= fun others =>
          pure (first.values ++ others) := by
  simp only [itemValues, argumentValues_cons, map_bind,
    bind_map_left, map_pure, Argument.flatten,
    List.flatMap_cons]

/- The arguments of a list come one part after the other. -/
theorem itemValues_append
    (before after : List Expr) :
    itemValues (before ++ after) =
      itemValues before >>= fun first =>
        itemValues after >>= fun others =>
          pure (first ++ others) := by
  induction before with
  | nil =>
      simp only [List.nil_append, itemValues_nil, pure_bind,
        bind_pure]
  | cons argument before ih =>
      simp only [List.cons_append, itemValues_cons, ih,
        bind_assoc, pure_bind, List.append_assoc]

/- The items of an area are the values of its cells. -/
theorem itemValues_range
    (written : String) :
    itemValues [.range written] = areaValues written := by
  rw [itemValues_cons, itemValues_nil, argumentValue]
  simp only [pure_bind, bind_map_left, Argument.values,
    List.append_nil, bind_pure]

/- An area is as good as the references to its cells. -/
theorem itemValues_references
    {written : String}
    {area : Area}
    (hArea : Area.ofText (upperName written) = .ok area) :
    itemValues area.references =
      itemValues [.range written] := by
  have hCells :
      ∀ cells : List Cell,
        (∀ cell ∈ cells, cell.IsLabelled) →
        itemValues (cells.map fun cell => .cell cell.label) =
          cells.mapM .ofCell := by
    intro cells
    induction cells with
    | nil => exact fun _ => rfl
    | cons cell cells ih =>
        intro hAll
        rw [List.forall_mem_cons] at hAll
        have hFirst :
            (Expr.cell cell.label).argumentValue =
              .scalar <$> .ofCell cell := by
          simp only [argumentValue, value,
            cellValue_label hAll.1]
        rw [List.map_cons, itemValues_cons, ih hAll.2, hFirst,
          List.mapM_cons, bind_map_left]
        rfl
  rw [itemValues_range, areaValues_eq hArea, Area.references]
  exact hCells area.cells fun _ =>
    Area.isLabelled_of_mem_cells hArea

/- It makes no difference among other arguments either. -/
theorem itemValues_listed
    {written : String}
    {area : Area}
    (hArea : Area.ofText (upperName written) = .ok area)
    (before after : List Expr) :
    itemValues (before ++ area.references ++ after) =
      itemValues (before ++ .range written :: after) := by
  have hSplit :
      before ++ .range written :: after =
        before ++ [.range written] ++ after := by
    rw [List.append_assoc, List.singleton_append]
  simp only [hSplit, itemValues_append,
    itemValues_references hArea]

/- Some functions see the values of their arguments only. -/
theorem value_call_of_isFlat
    {name : String}
    {function : Function}
    (hName : Function.named? (upperName name) = some function)
    (hFlat : function.isFlat = true)
    (arguments : List Expr) :
    (call name arguments).value =
      itemValues arguments >>= fun values =>
        .ofAnswer
          (Call.mk function
            (values.map .scalar)).delivered := by
  have hOther : function ≠ .ifError := by
    rintro rfl
    cases hFlat
  rw [value_call hName hOther, itemValues, bind_map_left]
  simp only [Call.ofArguments, hFlat, if_true]

end Expr

end Spreadsheet

------------------------------------------------------------
-- Formulas With Listed Cells
------------------------------------------------------------

namespace Spreadsheet

namespace Expr

/-
  One formula lists the cells of an area in another one: both
  are the same but for one argument of a function that takes
  the values of areas one by one, at any depth.
-/
inductive ListsCells : Expr → Expr → Prop where
  | area
      {name written : String}
      {function : Function}
      {area : Area}
      (hName :
        Function.named? (upperName name) = some function)
      (hFlat : function.isFlat = true)
      (hArea : Area.ofText (upperName written) = .ok area)
      (before after : List Expr) :
      ListsCells
        (.call name (before ++ .range written :: after))
        (.call name (before ++ area.references ++ after))
  | operand
      (op : UnaryOp)
      {formula listed : Expr}
      (hLists : ListsCells formula listed) :
      ListsCells (.unary op formula) (.unary op listed)
  | left
      (op : BinaryOp)
      {formula listed : Expr}
      (hLists : ListsCells formula listed)
      (right : Expr) :
      ListsCells (.binary op formula right)
        (.binary op listed right)
  | right
      (op : BinaryOp)
      (left : Expr)
      {formula listed : Expr}
      (hLists : ListsCells formula listed) :
      ListsCells (.binary op left formula)
        (.binary op left listed)
  | argument
      (name : String)
      (before : List Expr)
      {formula listed : Expr}
      (hLists : ListsCells formula listed)
      (after : List Expr) :
      ListsCells (.call name (before ++ formula :: after))
        (.call name (before ++ listed :: after))

variable {formula listed : Expr}

/- A formula that lists cells is no area itself. -/
theorem ListsCells.argumentValue_eq
    (hLists : formula.ListsCells listed)
    (hValue : listed.value = formula.value) :
    listed.argumentValue = formula.argumentValue := by
  cases hLists <;> simp only [argumentValue, hValue]

/-
  The values before an argument are found before it, and
  those behind it after it.
-/
theorem argumentValues_middle
    (before : List Expr)
    (argument : Expr)
    (after : List Expr) :
    argumentValues (before ++ argument :: after) =
      argumentValues before >>= fun first =>
        argument.argumentValue >>= fun found =>
          argumentValues after >>= fun rest =>
            pure (first ++ found :: rest) := by
  induction before with
  | nil =>
      rw [List.nil_append, argumentValues_cons, argumentValues]
      rfl
  | cons early before ih =>
      rw [List.cons_append, argumentValues_cons, ih,
        argumentValues_cons]
      simp only [bind_assoc, pure_bind, List.cons_append]

/- Arguments evaluate alike if one of them is replaced. -/
theorem argumentValues_replaced
    (before after : List Expr)
    (hArgument :
      listed.argumentValue = formula.argumentValue) :
    argumentValues (before ++ listed :: after) =
      argumentValues (before ++ formula :: after) := by
  rw [argumentValues_middle, argumentValues_middle, hArgument]

/- So do the arguments of an attempt. -/
theorem attemptValue_replaced
    (before after : List Expr)
    (hValue : listed.value = formula.value) :
    attemptValue (before ++ listed :: after) =
      attemptValue (before ++ formula :: after) := by
  rcases before with _ | ⟨tried, _ | ⟨fallback, before⟩⟩
  · rcases after with _ | ⟨fallback, _ | _⟩
    · simp only [List.nil_append, attemptValue, hValue]
    · simp only [List.nil_append, attemptValue, hValue]
    · rfl
  · rcases after with _ | _
    · simp only [List.singleton_append, attemptValue, hValue]
    · rfl
  · cases before <;> rfl

/- A formula has the same value if it lists cells. -/
theorem ListsCells.value_eq
    (hLists : formula.ListsCells listed) :
    listed.value = formula.value := by
  induction hLists with
  | area hName hFlat hArea before after =>
      rw [value_call_of_isFlat hName hFlat,
        value_call_of_isFlat hName hFlat,
        itemValues_listed hArea]
  | operand op hLists ih => rw [value, value, ih]
  | left op hLists right ih => rw [value, value, ih]
  | right op left hLists ih => rw [value, value, ih]
  | argument name before hLists after ih =>
      rw [value, value, attemptValue_replaced before after ih,
        argumentValues_replaced before after
          (hLists.argumentValue_eq ih)]

end Expr

end Spreadsheet
