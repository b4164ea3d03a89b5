import Spreadsheet.Evaluation.Operators
import Spreadsheet.Function.Answer
import Spreadsheet.Proofs.Number.Worth

/-
  Slices of texts.

  Counts and positions are numbers, so a natural number is
  read from its float: exactly if it is below the limit, and
  else as one that is not below the limit either.  No text
  shorter than the limit tells such numbers apart.  Numbers
  that are infinite as floats are rejected.

  Key definitions include:
    * `Spreadsheet.Value.ofNat`
    * `Spreadsheet.Call.Returns`
    * `Spreadsheet.Call.Rejects`
    * `Spreadsheet.Call.Sliced`

  Main results:
    * `Spreadsheet.Call.returns_left`
    * `Spreadsheet.Call.returns_right`
    * `Spreadsheet.Call.returns_mid`
    * `Spreadsheet.Call.slices_reassemble`
-/

------------------------------------------------------------
-- Calls On Values
------------------------------------------------------------

namespace Spreadsheet

/- The value that the digits of a natural number stand for. -/
def Value.ofNat
    (n : Nat) :
    Value :=
  .number (Number.ofInt n)

namespace Call

/- A function on values, one for each argument. -/
def on
    (function : Function)
    (values : List Value) :
    Call :=
  ⟨function, values.map .scalar⟩

/- A function returns a value from values. -/
def Returns
    (function : Function)
    (values : List Value)
    (value : Value) : Prop :=
  (on function values).answer = .settled (.ok value)

/- A function rejects values as unfit. -/
def Rejects
    (function : Function)
    (values : List Value) : Prop :=
  ∃ failure,
    (on function values).answer =
        .settled (.error failure) ∧
      failure.code = "#VALUE!"

variable {function : Function}
variable {values : List Value}
variable {value value' : Value}

/- A function returns one value. -/
theorem Returns.unique
    (hReturns : Returns function values value)
    (hOther : Returns function values value') :
    value = value' := by
  rw [Returns, hReturns] at hOther
  cases hOther
  rfl

/- What is returned is not rejected. -/
theorem Returns.not_rejects
    (hReturns : Returns function values value) :
    ¬ Rejects function values := by
  rintro ⟨failure, hAnswer, -⟩
  rw [Returns, hAnswer] at hReturns
  cases hReturns

end Call

end Spreadsheet

------------------------------------------------------------
-- Counts And Positions
------------------------------------------------------------

namespace Spreadsheet

namespace Call

open Number (ReadsAs overflow ofInt)

variable {call : Call}
variable {index n : Nat}
variable {missing : Value}

/- Zero is worth nothing, and one is worth one. -/
theorem worth_zero_one :
    Number.worth 0.0 = (0 : Nat) ∧
      Number.worth 1.0 = (1 : Nat) := by
  have hZero :
      Number.Binary.ofFloat 0.0 = .finite false 0 (-1074) := by
    decide +kernel
  have hOne :
      Number.Binary.ofFloat 1.0 =
        .finite false (2 ^ 52) (-52) := by
    decide +kernel
  rw [Number.worth, Number.worth, hZero, hOne]
  norm_num [Number.Binary.signed]

/- A finite count is read up to what no text tells apart. -/
theorem size_ofNat
    (hArgument :
      call.numberOr index missing = .ok (ofInt n))
    (hBelow : (n : ℚ) < overflow) :
    ∃ count,
      call.size index missing = .ok count ∧
        ReadsAs n count := by
  rcases Number.truncate?_ofInt hBelow with
    ⟨count, hWhole, hReads⟩
  have hSign : ¬ ofInt n < 0.0 :=
    Number.not_ofInt_lt hBelow (by decide +kernel)
      worth_zero_one.1 (by norm_num) (Nat.zero_le n)
  refine ⟨count, ?_, hReads⟩
  simp only [size, hArgument, bind, Except.bind, hWhole, hSign,
    if_false]
  rfl

/- An infinite count is rejected. -/
theorem size_of_overflow
    (hArgument :
      call.numberOr index missing = .ok (ofInt n))
    (hGreat : overflow ≤ (n : ℚ)) :
    call.size index missing =
      .error (.invalidCount call.function (ofInt n)) := by
  simp only [size, hArgument, bind, Except.bind,
    Number.truncate?_ofInt_of_overflow hGreat]
  rfl

/- A finite position is read as a count of what is before it. -/
theorem start_ofNat
    (hArgument :
      call.numberOr index (.number 1.0) = .ok (ofInt n))
    (hFirst : 1 ≤ n)
    (hBelow : (n : ℚ) < overflow) :
    ∃ position,
      call.start index = .ok (position - 1) ∧
        ReadsAs n position := by
  rcases Number.truncate?_ofInt hBelow with
    ⟨position, hWhole, hReads⟩
  have hLess : ¬ ofInt n < 1.0 :=
    Number.not_ofInt_lt hBelow (by decide +kernel)
      worth_zero_one.2 (by norm_num) hFirst
  have hNat : ((position : Int) - 1).toNat = position - 1 := by
    omega
  refine ⟨position, ?_, hReads⟩
  simp only [start, hArgument, bind, Except.bind, hWhole,
    hLess, if_false, hNat]
  rfl

/- An infinite position is rejected. -/
theorem start_of_overflow
    (hArgument :
      call.numberOr index (.number 1.0) = .ok (ofInt n))
    (hGreat : overflow ≤ (n : ℚ)) :
    call.start index =
      .error (.invalidStart call.function (ofInt n)) := by
  simp only [start, hArgument, bind, Except.bind,
    Number.truncate?_ofInt_of_overflow hGreat]
  rfl

end Call

end Spreadsheet

------------------------------------------------------------
-- Slices By Counts
------------------------------------------------------------

namespace Spreadsheet

namespace Number

variable {text : List Char}
variable {n count : Nat}

/- No length below the limit tells the two numbers apart. -/
theorem ReadsAs.min_eq
    {length : Nat}
    (hReads : ReadsAs n count)
    (hShort : length < 2 ^ 53) :
    min count length = min n length := by
  rcases lt_or_ge n (2 ^ 53) with hFew | hMany
  · rw [hReads.exact (isExact_of_lt hFew)]
  · have hGreat := hReads.great hMany
    omega

/- The same characters are in front of both. -/
theorem ReadsAs.take_eq
    (hReads : ReadsAs n count)
    (hShort : text.length < 2 ^ 53) :
    text.take count = text.take n :=
  List.take_eq_take_iff.mpr (hReads.min_eq hShort)

/- The same characters are the last ones. -/
theorem ReadsAs.lastChars_eq
    (hReads : ReadsAs n count)
    (hShort : text.length < 2 ^ 53) :
    Text.lastChars text count = Text.lastChars text n := by
  have hMin := hReads.min_eq hShort
  have hDropped :
      text.length - count = text.length - n := by
    omega
  rw [Text.lastChars, Text.lastChars, hDropped]

/- The same characters are at both positions and behind. -/
theorem ReadsAs.drop_eq
    (hReads : ReadsAs n count)
    (hShort : text.length < 2 ^ 53) :
    text.drop (count - 1) = text.drop (n - 1) := by
  apply List.drop_eq_drop_iff.mpr
  rcases lt_or_ge n (2 ^ 53) with hFew | hMany
  · rw [hReads.exact (isExact_of_lt hFew)]
  · have hGreat := hReads.great hMany
    omega

end Number

namespace Call

open Number (ReadsAs overflow ofInt)

variable {t : String}
variable {n m : Nat}

/- The characters of a text are fewer than the limit. -/
theorem length_toList_lt
    (hShort : t.length < 2 ^ 53) :
    t.toList.length < 2 ^ 53 := by
  rwa [String.length_toList]

/- The length of a text. -/
theorem returns_len
    (t : String) :
    Returns .len [.text t] (.ofNat t.length) := by
  rw [← String.length_toList]
  rfl

/- The first characters of a text. -/
theorem returns_left
    (hShort : t.length < 2 ^ 53)
    (hBelow : (n : ℚ) < overflow) :
    Returns .left [.text t, .ofNat n]
      (.ofChars (t.toList.take n)) := by
  have hArgument :
      (on .left [.text t, .ofNat n]).numberOr 1 (.number 1.0) =
        .ok (ofInt n) := rfl
  rcases size_ofNat hArgument hBelow with ⟨count, hSize, hReads⟩
  have hLeft :
      (on .left [.text t, .ofNat n]).left =
        .ok (.ofChars (t.toList.take count)) := by
    rw [left, hSize]
    rfl
  rw [hReads.take_eq (length_toList_lt hShort)] at hLeft
  exact congrArg Answer.settled hLeft

/- The last characters of a text. -/
theorem returns_right
    (hShort : t.length < 2 ^ 53)
    (hBelow : (n : ℚ) < overflow) :
    Returns .right [.text t, .ofNat n]
      (.ofChars (Text.lastChars t.toList n)) := by
  have hArgument :
      (on .right [.text t, .ofNat n]).numberOr 1
        (.number 1.0) = .ok (ofInt n) := rfl
  rcases size_ofNat hArgument hBelow with ⟨count, hSize, hReads⟩
  have hRight :
      (on .right [.text t, .ofNat n]).right =
        .ok (.ofChars (Text.lastChars t.toList count)) := by
    rw [right, hSize]
    rfl
  rw [hReads.lastChars_eq (length_toList_lt hShort)] at hRight
  exact congrArg Answer.settled hRight

/- The characters of a text from a position on. -/
theorem returns_mid
    (hShort : t.length < 2 ^ 53)
    (hFirst : 1 ≤ n)
    (hPosition : (n : ℚ) < overflow)
    (hCount : (m : ℚ) < overflow) :
    Returns .mid [.text t, .ofNat n, .ofNat m]
      (.ofChars (Text.slice t.toList (n - 1) m)) := by
  have hStartArgument :
      (on .mid [.text t, .ofNat n, .ofNat m]).numberOr 1
        (.number 1.0) = .ok (ofInt n) := rfl
  have hSizeArgument :
      (on .mid [.text t, .ofNat n, .ofNat m]).numberOr 2
        .empty = .ok (ofInt m) := rfl
  rcases start_ofNat hStartArgument hFirst hPosition with
    ⟨position, hStart, hReadsPosition⟩
  rcases size_ofNat hSizeArgument hCount with
    ⟨count, hSize, hReadsCount⟩
  have hMid :
      (on .mid [.text t, .ofNat n, .ofNat m]).mid =
        .ok (.ofChars
          (Text.slice t.toList (position - 1) count)) := by
    rw [mid, hStart, hSize]
    rfl
  have hRest :
      (t.toList.drop (n - 1)).length < 2 ^ 53 := by
    rw [List.length_drop]
    exact (Nat.sub_le _ _).trans_lt (length_toList_lt hShort)
  rw [Text.slice,
    hReadsPosition.drop_eq (length_toList_lt hShort),
    hReadsCount.take_eq hRest] at hMid
  exact congrArg Answer.settled hMid

/- An infinite count of characters at an end is rejected. -/
theorem rejects_ends
    (hGreat : overflow ≤ (n : ℚ)) :
    Rejects .left [.text t, .ofNat n] ∧
      Rejects .right [.text t, .ofNat n] := by
  have hLeft :
      (on .left [.text t, .ofNat n]).numberOr 1 (.number 1.0) =
        .ok (ofInt n) := rfl
  have hRight :
      (on .right [.text t, .ofNat n]).numberOr 1
        (.number 1.0) = .ok (ofInt n) := rfl
  constructor
  · refine ⟨.invalidCount .left (ofInt n),
      congrArg Answer.settled ?_, rfl⟩
    rw [left, size_of_overflow hLeft hGreat]
    rfl
  · refine ⟨.invalidCount .right (ofInt n),
      congrArg Answer.settled ?_, rfl⟩
    rw [right, size_of_overflow hRight hGreat]
    rfl

/- So is an infinite position or count in the middle. -/
theorem rejects_mid
    (hFirst : 1 ≤ n)
    (hGreat : overflow ≤ (n : ℚ) ∨ overflow ≤ (m : ℚ)) :
    Rejects .mid [.text t, .ofNat n, .ofNat m] := by
  have hStartArgument :
      (on .mid [.text t, .ofNat n, .ofNat m]).numberOr 1
        (.number 1.0) = .ok (ofInt n) := rfl
  have hSizeArgument :
      (on .mid [.text t, .ofNat n, .ofNat m]).numberOr 2
        .empty = .ok (ofInt m) := rfl
  rcases lt_or_ge (n : ℚ) overflow with hBelow | hPosition
  · have hCount := hGreat.resolve_left (not_le.mpr hBelow)
    rcases start_ofNat hStartArgument hFirst hBelow with
      ⟨position, hStart, -⟩
    refine ⟨.invalidCount .mid (ofInt m),
      congrArg Answer.settled ?_, rfl⟩
    rw [mid, hStart, size_of_overflow hSizeArgument hCount]
    rfl
  · refine ⟨.invalidStart .mid (ofInt n),
      congrArg Answer.settled ?_, rfl⟩
    rw [mid, start_of_overflow hStartArgument hPosition]
    rfl

end Call

end Spreadsheet

------------------------------------------------------------
-- Slices Put Together
------------------------------------------------------------

namespace Spreadsheet

namespace Call

open Number (overflow)

/-
  How slices of a text fit together, cut behind `n` characters
  and then behind `m` more ones.  Counts and positions that are
  infinite as floats are rejected.
-/
structure Sliced
    (t : String)
    (n m : Nat) : Prop where
  length : Returns .len [.text t] (.ofNat t.length)
  joined :
    n ≤ t.length →
      ∃ first last,
        Returns .left [.text t, .ofNat n] first ∧
          Returns .right
            [.text t, .ofNat (t.length - n)] last ∧
          BinaryOp.concat.apply first last = .ok (.text t)
  front :
    n ≤ t.length →
      ∃ first,
        Returns .left [.text t, .ofNat n] first ∧
          Returns .mid [.text t, .ofNat 1, .ofNat n] first
  inner :
    n ≤ t.length →
      ∃ last,
        Returns .right
            [.text t, .ofNat (t.length - n)] last ∧
          ((m : ℚ) < overflow →
            ∃ part,
              Returns .mid
                  [.text t, .ofNat (n + 1), .ofNat m] part ∧
                Returns .left [last, .ofNat m] part) ∧
          (overflow ≤ (m : ℚ) →
            Rejects .mid
                [.text t, .ofNat (n + 1), .ofNat m] ∧
              Rejects .left [last, .ofNat m])
  whole :
    t.length < n → (n : ℚ) < overflow →
      Returns .left [.text t, .ofNat n] (.text t) ∧
        Returns .right [.text t, .ofNat n] (.text t)
  behind :
    t.length < n → ((n + 1 : Nat) : ℚ) < overflow →
      (m : ℚ) < overflow →
        Returns .mid [.text t, .ofNat (n + 1), .ofNat m]
          (.text "")
  lengths :
    (n : ℚ) < overflow →
      ∃ first last,
        Returns .left [.text t, .ofNat n] first ∧
          Returns .right [.text t, .ofNat n] last ∧
          Returns .len [first] (.ofNat (min n t.length)) ∧
          Returns .len [last] (.ofNat (min n t.length))
  rejected :
    overflow ≤ (n : ℚ) →
      Rejects .left [.text t, .ofNat n] ∧
        Rejects .right [.text t, .ofNat n]

variable {t : String}
variable {n m : Nat}

/- The rest behind the first characters of a text. -/
theorem returns_rest
    (hShort : t.length < 2 ^ 53)
    (hInside : n ≤ t.length) :
    Returns .right [.text t, .ofNat (t.length - n)]
      (.ofChars (t.toList.drop n)) := by
  have hRest :
      Text.lastChars t.toList (t.length - n) =
        t.toList.drop n := by
    rw [Text.lastChars, String.length_toList,
      Nat.sub_sub_self hInside]
  rw [← hRest]
  exact returns_right hShort
    (Number.natCast_lt_overflow (by omega))

/- What goes beyond a text is the whole of it. -/
theorem returns_whole
    (hShort : t.length < 2 ^ 53)
    (hBeyond : t.length < n)
    (hBelow : (n : ℚ) < overflow) :
    Returns .left [.text t, .ofNat n] (.text t) ∧
      Returns .right [.text t, .ofNat n] (.text t) := by
  have hLength : t.toList.length ≤ n := by
    rw [String.length_toList]
    exact hBeyond.le
  have hFirst : t.toList.take n = t.toList :=
    List.take_of_length_le hLength
  have hLast : Text.lastChars t.toList n = t.toList := by
    rw [Text.lastChars, Nat.sub_eq_zero_of_le hLength,
      List.drop_zero]
  have hText : Value.ofChars t.toList = .text t :=
    congrArg Value.text String.ofList_toList
  have hLeft := returns_left hShort hBelow
  have hRight := returns_right hShort hBelow
  rw [hFirst, hText] at hLeft
  rw [hLast, hText] at hRight
  exact ⟨hLeft, hRight⟩

/- Behind a text there is nothing. -/
theorem returns_nothing
    (hShort : t.length < 2 ^ 53)
    (hBeyond : t.length < n)
    (hPosition : ((n + 1 : Nat) : ℚ) < overflow)
    (hCount : (m : ℚ) < overflow) :
    Returns .mid [.text t, .ofNat (n + 1), .ofNat m]
      (.text "") := by
  have hLength : t.toList.length ≤ n := by
    rw [String.length_toList]
    exact hBeyond.le
  have hMid :=
    returns_mid hShort (Nat.le_add_left 1 n) hPosition hCount
  rw [Text.slice, Nat.add_sub_cancel,
    List.drop_of_length_le hLength, List.take_nil] at hMid
  exact hMid

/- The characters at an end are as many as there are. -/
theorem returns_lengths
    (t : String)
    (n : Nat) :
    Returns .len [.ofChars (t.toList.take n)]
        (.ofNat (min n t.length)) ∧
      Returns .len [.ofChars (Text.lastChars t.toList n)]
        (.ofNat (min n t.length)) := by
  have hFirst :=
    returns_len (String.ofList (t.toList.take n))
  have hLast :=
    returns_len (String.ofList (Text.lastChars t.toList n))
  rw [String.length_ofList, List.length_take,
    String.length_toList] at hFirst
  rw [String.length_ofList, Text.lastChars, List.length_drop,
    String.length_toList, Nat.sub_sub_eq_min, min_comm]
    at hLast
  exact ⟨hFirst, hLast⟩

/-
  What is cut from a text is put together to the text again, in
  whichever way it is cut.
-/
theorem slices_reassemble
    (t : String)
    (n m : Nat)
    (hShort : t.length < 2 ^ 53) :
    Sliced t n m := by
  have hFinite : n ≤ t.length → (n : ℚ) < overflow :=
    fun hInside =>
      Number.natCast_lt_overflow (hInside.trans hShort.le)
  constructor
  case length => exact returns_len t
  case joined =>
    intro hInside
    refine ⟨_, _, returns_left hShort (hFinite hInside),
      returns_rest hShort hInside, ?_⟩
    have hJoined :
        String.ofList (t.toList.take n) ++
            String.ofList (t.toList.drop n) =
          t := by
      rw [← String.ofList_append, List.take_append_drop,
        String.ofList_toList]
    exact congrArg Except.ok (congrArg Value.text hJoined)
  case front =>
    intro hInside
    exact ⟨_, returns_left hShort (hFinite hInside),
      returns_mid hShort (Nat.le_refl 1)
        (Number.natCast_lt_overflow (by decide))
        (hFinite hInside)⟩
  case inner =>
    intro hInside
    refine ⟨_, returns_rest hShort hInside, ?_, ?_⟩
    · intro hCount
      have hRest :
          (String.ofList (t.toList.drop n)).length <
            2 ^ 53 := by
        rw [String.length_ofList, List.length_drop,
          String.length_toList]
        omega
      have hLeft := returns_left hRest hCount
      rw [String.toList_ofList] at hLeft
      exact ⟨_, returns_mid hShort (Nat.le_add_left 1 n)
        (Number.natCast_lt_overflow (by omega)) hCount, hLeft⟩
    · intro hGreat
      exact ⟨rejects_mid (Nat.le_add_left 1 n) (.inr hGreat),
        (rejects_ends hGreat).1⟩
  case whole => exact returns_whole hShort
  case behind => exact returns_nothing hShort
  case lengths =>
    intro hBelow
    exact ⟨_, _, returns_left hShort hBelow,
      returns_right hShort hBelow, returns_lengths t n⟩
  case rejected => exact rejects_ends

/- A word with a letter beyond ASCII, cut inside and behind. -/
theorem slices_reassemble_word :
    "héllo".length < 2 ^ 53 ∧
      Sliced "héllo" 2 2 ∧
      Sliced "héllo" 7 1 :=
  ⟨by decide, slices_reassemble "héllo" 2 2 (by decide),
    slices_reassemble "héllo" 7 1 (by decide)⟩

/- A count that covers a text may be too great for a float. -/
theorem left_rejects_infinite_count :
    "abc".length < 10 ^ 309 ∧
      Rejects .left [.text "abc", .ofNat (10 ^ 309)] ∧
      ¬ Returns .left [.text "abc", .ofNat (10 ^ 309)]
        (.text "abc") := by
  have hLast : 2 ^ 53 * 2 ^ 971 ≤ 10 ^ 309 := by
    decide +kernel
  have hGreat : overflow ≤ ((10 ^ 309 : Nat) : ℚ) := by
    calc
      overflow ≤ 2 ^ 53 * 2 ^ (971 : Int) :=
        mul_le_mul_of_nonneg_right (by norm_num)
          (by positivity)
      _ ≤ ((10 ^ 309 : Nat) : ℚ) := by
        rw [zpow_ofNat]
        exact_mod_cast hLast
  rcases rejects_ends (t := "abc") hGreat with ⟨hRejects, -⟩
  exact ⟨by decide +kernel, hRejects,
    fun hReturns => hReturns.not_rejects hRejects⟩

end Call

end Spreadsheet
