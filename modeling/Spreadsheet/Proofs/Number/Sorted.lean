import Mathlib.Data.List.Sort
import Spreadsheet.Function.Arithmetic
import Spreadsheet.Function.Statistics
import Spreadsheet.Proofs.Number.Order

/-
  Floats put in order.

  Sorting keeps the numbers and puts them in ascending order:
  the first run is in order, and each further number is put
  behind all that are not above it.  So what is found at a
  place of the sorted numbers does not depend on the order
  that they came in, but for the sign of zero.

  Key definitions include:
    * `Spreadsheet.Number.Defined`
    * `Spreadsheet.Number.Ascends`

  Main results:
    * `Spreadsheet.Number.placeIn_divides`
    * `Spreadsheet.Number.sort_spec`
    * `Spreadsheet.Number.median_of_perm`
    * `Spreadsheet.Number.least_of_perm`
    * `Spreadsheet.Number.greatest_of_perm`
-/

------------------------------------------------------------
-- Places In Sorted Numbers
------------------------------------------------------------

namespace Spreadsheet

namespace Number

/- None of the numbers is the undefined one. -/
def Defined
    (xs : List Float) : Prop :=
  ∀ x ∈ xs, isNaN x = false

/- Numbers in ascending order of their ranks. -/
def Ascends
    (xs : List Float) : Prop :=
  xs.Pairwise fun x y => rank x ≤ rank y

variable {xs ys : List Float}
variable {x : Float}

/- A number in order divides the others into two sides. -/
theorem Ascends.sides
    (hAscends : Ascends xs)
    {middle : Nat}
    (hMiddle : middle < xs.length) :
    (∀ y ∈ xs.take middle, rank y ≤ rank xs[middle]) ∧
      ∀ y ∈ xs.drop (middle + 1),
        rank xs[middle] ≤ rank y := by
  rw [Ascends, ← List.take_append_drop middle xs,
    List.drop_eq_getElem_cons hMiddle, List.pairwise_append,
    List.pairwise_cons] at hAscends
  exact ⟨fun y hY =>
    hAscends.2.2 y hY _ List.mem_cons_self, hAscends.2.1.1⟩

/-
  Halving finds the place that divides what is not above a
  number from what is above it.
-/
theorem placeIn_divides
    (hAscends : Ascends xs)
    (hDefined : Defined xs)
    (hX : isNaN x = false)
    {fuel low high : Nat}
    (hLow : low ≤ high)
    (hHigh : high ≤ xs.length)
    (hFuel : high ≤ low + fuel)
    (hBefore : ∀ y ∈ xs.take low, rank y ≤ rank x)
    (hAfter : ∀ y ∈ xs.drop high, rank x < rank y) :
    (∀ y ∈ xs.take (placeIn xs x fuel low high),
        rank y ≤ rank x) ∧
      ∀ y ∈ xs.drop (placeIn xs x fuel low high),
        rank x < rank y := by
  -- The two sides, before `low` and from `high` on, only grow.
  induction fuel generalizing low high with
  | zero =>
      have hSame : low = high := by omega
      rw [placeIn]
      exact ⟨hBefore, hSame ▸ hAfter⟩
  | succ fuel ih =>
      by_cases hLess : low < high
      · let middle := low + (high - low) / 2
        have hMiddle : middle < xs.length := by omega
        rcases hAscends.sides hMiddle with ⟨hLeft, hRight⟩
        have hOrder :
            x < xs.getD middle 0.0 ↔
              rank x < rank xs[middle] := by
          rw [List.getD_eq_getElem xs 0.0 hMiddle]
          exact lt_iff_rank hX
            (hDefined _ (List.getElem_mem hMiddle))
        by_cases hBelow : x < xs.getD middle 0.0
        · have hHalf :
              placeIn xs x (fuel + 1) low high =
                placeIn xs x fuel low middle := by
            simp only [placeIn, hLess, if_true, middle, hBelow]
          have hAbove := hOrder.mp hBelow
          rw [hHalf]
          refine ih (by omega) hMiddle.le (by omega) hBefore ?_
          rw [List.drop_eq_getElem_cons hMiddle,
            List.forall_mem_cons]
          exact ⟨hAbove, fun y hY =>
            hAbove.trans_le (hRight y hY)⟩
        · have hHalf :
              placeIn xs x (fuel + 1) low high =
                placeIn xs x fuel (middle + 1) high := by
            simp only [placeIn, hLess, if_true, middle, hBelow,
              if_false]
          have hAbove := not_lt.mp (mt hOrder.mpr hBelow)
          rw [hHalf]
          refine ih (by omega) hHigh (by omega) ?_ hAfter
          rw [List.take_succ_eq_append_getElem hMiddle,
            List.forall_mem_append, List.forall_mem_singleton]
          exact ⟨fun y hY => (hLeft y hY).trans hAbove, hAbove⟩
      · have hSame : low = high := by omega
        rw [placeIn, if_neg hLess]
        exact ⟨hBefore, hSame ▸ hAfter⟩

/- Putting a number into others adds this number. -/
theorem insertSorted_perm
    (xs : List Float)
    (x : Float) :
    (insertSorted xs x).Perm (x :: xs) := by
  let place := placeIn xs x xs.length 0 xs.length
  have hMiddle :
      (xs.take place ++ x :: xs.drop place).Perm
        (x :: (xs.take place ++ xs.drop place)) :=
    List.perm_middle
  rwa [List.take_append_drop] at hMiddle

/- It keeps the others in order. -/
theorem insertSorted_ascends
    (hAscends : Ascends xs)
    (hDefined : Defined xs)
    (hX : isNaN x = false) :
    Ascends (insertSorted xs x) := by
  rcases placeIn_divides hAscends hDefined hX (Nat.zero_le _)
      (le_refl xs.length) (Nat.le_add_left _ 0) (by simp)
      (by simp) with ⟨hBefore, hAfter⟩
  have hParts := hAscends
  rw [Ascends, ← List.take_append_drop
    (placeIn xs x xs.length 0 xs.length) xs,
    List.pairwise_append] at hParts
  rw [Ascends, insertSorted, List.pairwise_append,
    List.pairwise_cons]
  refine ⟨hParts.1, ⟨fun y hY => (hAfter y hY).le,
    hParts.2.1⟩, ?_⟩
  intro y hY
  rw [List.forall_mem_cons]
  exact ⟨hBefore y hY, hParts.2.2 y hY⟩

end Number

end Spreadsheet

------------------------------------------------------------
-- Sorting
------------------------------------------------------------

namespace Spreadsheet

namespace Number

variable {xs ys : List Float}
variable {x : Float}

/- What comes before the first item comes before all. -/
theorem pairwise_cons_of_first
    {α : Type}
    {before : α → α → Prop}
    (hTrans : ∀ a b c,
      before a b → before b c → before a c)
    {first next : α}
    {rest : List α}
    (hFirst : before first next)
    (hRest : (next :: rest).Pairwise before) :
    (first :: next :: rest).Pairwise before := by
  rw [List.pairwise_cons, List.forall_mem_cons]
  exact ⟨⟨hFirst, fun item hItem =>
    hTrans _ _ _ hFirst
      (List.rel_of_pairwise_cons hRest hItem)⟩, hRest⟩

/- One more number below the first keeps the order. -/
theorem Ascends.cons
    {y : Float}
    (hFirst : rank x ≤ rank y)
    (hAscends : Ascends (y :: xs)) :
    Ascends (x :: y :: xs) := by
  have hTrans :
      ∀ a b c, rank a ≤ rank b → rank b ≤ rank c →
        rank a ≤ rank c :=
    fun _ _ _ => le_trans
  exact pairwise_cons_of_first hTrans hFirst hAscends

/- A descending run is in order, and leaves the rest. -/
theorem descending_spec
    (hX : isNaN x = false)
    (hDefined : Defined xs) :
    (descending x xs).1 ++ (descending x xs).2 = xs ∧
      (x :: (descending x xs).1).Pairwise
        fun y z => rank z ≤ rank y := by
  induction xs generalizing x with
  | nil => exact ⟨rfl, List.pairwise_singleton _ _⟩
  | cons y ys ih =>
      rw [Defined, List.forall_mem_cons] at hDefined
      by_cases hBelow : y < x
      · rcases ih hDefined.1 hDefined.2 with ⟨hWhole, hRun⟩
        have hLess :=
          ((lt_iff_rank hDefined.1 hX).mp hBelow).le
        simp only [descending, hBelow, if_true, List.cons_append,
          hWhole, true_and]
        exact pairwise_cons_of_first
          (fun _ _ _ hHigher hLower => hLower.trans hHigher)
          hLess hRun
      · simp only [descending, hBelow, if_false, List.nil_append,
          true_and]
        exact List.pairwise_singleton _ _

/- An ascending run is in order, and leaves the rest. -/
theorem ascending_spec
    (hX : isNaN x = false)
    (hDefined : Defined xs) :
    (ascending x xs).1 ++ (ascending x xs).2 = xs ∧
      Ascends (x :: (ascending x xs).1) := by
  induction xs generalizing x with
  | nil => exact ⟨rfl, List.pairwise_singleton _ _⟩
  | cons y ys ih =>
      rw [Defined, List.forall_mem_cons] at hDefined
      by_cases hBelow : y < x
      · simp only [ascending, hBelow, if_true, List.nil_append,
          true_and]
        exact List.pairwise_singleton _ _
      · rcases ih hDefined.1 hDefined.2 with ⟨hWhole, hRun⟩
        have hAbove :=
          not_lt.mp (mt (lt_iff_rank hDefined.1 hX).mpr hBelow)
        simp only [ascending, hBelow, if_false, List.cons_append,
          hWhole, true_and]
        exact hRun.cons hAbove

/- The first run is in order, and leaves the rest. -/
theorem firstRun_spec
    (hDefined : Defined xs) :
    ((firstRun xs).1 ++ (firstRun xs).2).Perm xs ∧
      Ascends (firstRun xs).1 := by
  rcases xs with _ | ⟨x, _ | ⟨y, xs⟩⟩
  · exact ⟨.refl _, .nil⟩
  · exact ⟨.refl _, List.pairwise_singleton _ _⟩
  · rw [Defined, List.forall_mem_cons, List.forall_mem_cons]
      at hDefined
    rcases hDefined with ⟨hX, hY, hRest⟩
    by_cases hBelow : y < x
    · rcases descending_spec hY hRest with ⟨hWhole, hRun⟩
      have hLess := ((lt_iff_rank hY hX).mp hBelow).le
      simp only [firstRun, hBelow, if_true]
      constructor
      · refine ((List.reverse_perm _).append_right _).trans ?_
        rw [List.cons_append, List.cons_append, hWhole]
      · rw [Ascends, List.pairwise_reverse]
        exact pairwise_cons_of_first
          (fun _ _ _ hHigher hLower => hLower.trans hHigher)
          hLess hRun
    · rcases ascending_spec hY hRest with ⟨hWhole, hRun⟩
      have hAbove :=
        not_lt.mp (mt (lt_iff_rank hY hX).mpr hBelow)
      simp only [firstRun, hBelow, if_false, List.cons_append,
        hWhole]
      exact ⟨.refl _, hRun.cons hAbove⟩

/- Numbers that are put into others one by one. -/
theorem foldl_insertSorted
    (hAscends : Ascends xs)
    (hDefined : Defined (xs ++ ys)) :
    (ys.foldl insertSorted xs).Perm (xs ++ ys) ∧
      Ascends (ys.foldl insertSorted xs) := by
  induction ys generalizing xs with
  | nil =>
      rw [List.append_nil]
      exact ⟨.refl _, hAscends⟩
  | cons y ys ih =>
      have hPerm :
          (insertSorted xs y ++ ys).Perm (xs ++ y :: ys) :=
        ((insertSorted_perm xs y).append_right ys).trans
          List.perm_middle.symm
      have hY : isNaN y = false :=
        hDefined y (by simp)
      have hXs : Defined xs :=
        fun x hX => hDefined x (List.mem_append_left _ hX)
      have hNext : Defined (insertSorted xs y ++ ys) :=
        fun x hX => hDefined x (hPerm.mem_iff.mp hX)
      rcases ih (insertSorted_ascends hAscends hXs hY) hNext
        with ⟨hAll, hSorted⟩
      exact ⟨hAll.trans hPerm, hSorted⟩

/- Sorted numbers are the same numbers in ascending order. -/
theorem sort_spec
    (hDefined : Defined xs) :
    (sort xs).Perm xs ∧ Ascends (sort xs) := by
  rcases firstRun_spec hDefined with ⟨hPerm, hRun⟩
  have hBoth :
      Defined ((firstRun xs).1 ++ (firstRun xs).2) :=
    fun x hX => hDefined x (hPerm.mem_iff.mp hX)
  rcases foldl_insertSorted hRun hBoth with ⟨hAll, hSorted⟩
  exact ⟨hAll.trans hPerm, hSorted⟩

end Number

end Spreadsheet

------------------------------------------------------------
-- Medians
------------------------------------------------------------

namespace Spreadsheet

namespace Number

variable {xs ys : List Float}

/- None of the numbers is undefined in any order. -/
theorem Defined.perm
    (hDefined : Defined xs)
    (hPerm : ys.Perm xs) :
    Defined ys :=
  fun x hX => hDefined x (hPerm.mem_iff.mp hX)

/- Sorted numbers have the same ranks in any order. -/
theorem map_rank_sort_of_perm
    (hDefined : Defined xs)
    (hPerm : ys.Perm xs) :
    (sort ys).map rank = (sort xs).map rank := by
  rcases sort_spec hDefined with ⟨hXs, hAscendsX⟩
  rcases sort_spec (hDefined.perm hPerm) with
    ⟨hYs, hAscendsY⟩
  have hRanks :
      ((sort ys).map rank).Perm ((sort xs).map rank) :=
    ((hYs.trans hPerm).trans hXs.symm).map rank
  exact hRanks.eq_of_pairwise
    (fun _ _ _ _ hLess hMore => le_antisymm hLess hMore)
    (List.pairwise_map.mpr hAscendsY)
    (List.pairwise_map.mpr hAscendsX)

/- What is found at a place of them is equal. -/
theorem getD_sort_of_perm
    (hDefined : Defined xs)
    (hPerm : ys.Perm xs)
    {index : Nat}
    (hIndex : index < (sort xs).length) :
    ((sort ys).getD index 0.0 ==
      (sort xs).getD index 0.0) = true := by
  have hRanks := map_rank_sort_of_perm hDefined hPerm
  have hLength : (sort ys).length = (sort xs).length := by
    simpa using congrArg List.length hRanks
  have hYs := (sort_spec (hDefined.perm hPerm)).1
  have hXs := (sort_spec hDefined).1
  rw [List.getD_eq_getElem _ _ hIndex,
    List.getD_eq_getElem _ _ (hLength ▸ hIndex),
    beq_iff_rank
      (hDefined.perm hPerm _
        (hYs.mem_iff.mp (List.getElem_mem _)))
      (hDefined _ (hXs.mem_iff.mp (List.getElem_mem _))),
    ← List.getElem_map rank, ← List.getElem_map rank]
  · simp only [hRanks]
  · simpa using hIndex
  · simpa [hLength] using hIndex

/- The median does not depend on the order of numbers. -/
theorem median_of_perm
    (hDefined : Defined xs)
    (hPerm : ys.Perm xs) :
    Coincide (median ys) (median xs) := by
  have hLength : (sort ys).length = (sort xs).length := by
    simpa using congrArg List.length
      (map_rank_sort_of_perm hDefined hPerm)
  unfold median
  simp only [hLength]
  by_cases hNone : (sort xs).length = 0
  · simp only [hNone, if_true]
    exact .inl rfl
  simp only [hNone, if_false]
  by_cases hOdd : (sort xs).length % 2 = 1
  · simp only [hOdd, if_true]
    exact .inr (getD_sort_of_perm hDefined hPerm (by omega))
  · simp only [hOdd, if_false]
    exact (add_coincides
      (getD_sort_of_perm hDefined hPerm (by omega))
      (getD_sort_of_perm hDefined hPerm (by omega))).half

end Number

end Spreadsheet

------------------------------------------------------------
-- Least And Greatest Numbers
------------------------------------------------------------

namespace Spreadsheet

namespace Number

variable {xs ys : List Float}

/-
  A number that gives way to each further one that comes
  before it ends as the first of all in this order.
-/
theorem foldl_first
    {κ : Type}
    [LinearOrder κ]
    (key : Float → κ)
    (before : Float → Float → Prop)
    [∀ y z, Decidable (before y z)]
    {x : Float}
    (hBefore : ∀ y ∈ x :: xs, ∀ z ∈ x :: xs,
      (before y z ↔ key y < key z)) :
    let first :=
      xs.foldl (fun m y => if before y m then y else m) x
    first ∈ x :: xs ∧ ∀ y ∈ x :: xs, key first ≤ key y := by
  induction xs generalizing x with
  | nil => simp
  | cons y ys ih =>
      let next := if before y x then y else x
      have hOrder := hBefore y (by simp) x (by simp)
      have hNext : next = x ∨ next = y := by
        by_cases hLess : before y x
        · exact .inr (if_pos hLess)
        · exact .inl (if_neg hLess)
      have hKeys : key next ≤ key x ∧ key next ≤ key y := by
        by_cases hLess : before y x
        · have hSame : next = y := if_pos hLess
          rw [hSame]
          exact ⟨(hOrder.mp hLess).le, le_refl _⟩
        · have hSame : next = x := if_neg hLess
          rw [hSame]
          exact ⟨le_refl _, not_lt.mp (mt hOrder.mpr hLess)⟩
      have hSubset :
          ∀ z ∈ next :: ys, z ∈ x :: y :: ys := by
        intro z hZ
        rcases List.mem_cons.mp hZ with rfl | hZ
        · rcases hNext with hSame | hSame <;> simp [hSame]
        · simp [hZ]
      rcases ih (x := next) fun a hA b hB =>
        hBefore a (hSubset a hA) b (hSubset b hB) with
        ⟨hMember, hLeast⟩
      refine ⟨hSubset _ hMember, ?_⟩
      rw [List.forall_mem_cons] at hLeast
      rw [List.forall_mem_cons, List.forall_mem_cons]
      exact ⟨hLeast.1.trans hKeys.1, hLeast.1.trans hKeys.2,
        hLeast.2⟩

/- The first of numbers is equal to that in another order. -/
theorem beq_of_first
    {κ : Type}
    [LinearOrder κ]
    {key : Float → κ}
    (hKey : ∀ a b, key a = key b → rank a = rank b)
    (hDefined : Defined xs)
    (hPerm : ys.Perm xs)
    {x y : Float}
    (hX : x ∈ xs ∧ ∀ z ∈ xs, key x ≤ key z)
    (hY : y ∈ ys ∧ ∀ z ∈ ys, key y ≤ key z) :
    (y == x) = true := by
  have hMemberY := hPerm.mem_iff.mp hY.1
  have hMemberX := hPerm.mem_iff.mpr hX.1
  rw [beq_iff_rank (hDefined y hMemberY) (hDefined x hX.1)]
  exact hKey y x
    (le_antisymm (hY.2 x hMemberX) (hX.2 y hMemberY))

/- The least number is the least in any order. -/
theorem least_of_perm
    (hDefined : Defined xs)
    (hPerm : ys.Perm xs) :
    (least ys == least xs) = true := by
  have hLeast :
      ∀ (x : Float) (xs : List Float), Defined (x :: xs) →
        least (x :: xs) ∈ x :: xs ∧
          ∀ y ∈ x :: xs, rank (least (x :: xs)) ≤ rank y :=
    fun x xs hDefined =>
      foldl_first rank (· < ·) fun y hY z hZ =>
        lt_iff_rank (hDefined y hY) (hDefined z hZ)
  rcases xs with _ | ⟨x, xs⟩
  · rw [hPerm.eq_nil]
    decide +kernel
  · rcases ys with _ | ⟨y, ys⟩
    · exact absurd hPerm.symm (List.not_perm_cons_nil)
    · exact beq_of_first (fun _ _ => id) hDefined hPerm
        (hLeast x xs hDefined)
        (hLeast y ys (hDefined.perm hPerm))

/- The greatest number is the greatest in any order. -/
theorem greatest_of_perm
    (hDefined : Defined xs)
    (hPerm : ys.Perm xs) :
    (greatest ys == greatest xs) = true := by
  have hGreatest :
      ∀ (x : Float) (xs : List Float), Defined (x :: xs) →
        greatest (x :: xs) ∈ x :: xs ∧
          ∀ y ∈ x :: xs,
            OrderDual.toDual (rank (greatest (x :: xs))) ≤
              OrderDual.toDual (rank y) :=
    fun x xs hDefined =>
      foldl_first (fun y => OrderDual.toDual (rank y))
        (· > ·) fun y hY z hZ =>
          lt_iff_rank (hDefined z hZ) (hDefined y hY)
  rcases xs with _ | ⟨x, xs⟩
  · rw [hPerm.eq_nil]
    decide +kernel
  · rcases ys with _ | ⟨y, ys⟩
    · exact absurd hPerm.symm (List.not_perm_cons_nil)
    · exact beq_of_first (fun _ _ => OrderDual.toDual_inj.mp)
        hDefined hPerm (hGreatest x xs hDefined)
        (hGreatest y ys (hDefined.perm hPerm))

end Number

end Spreadsheet
