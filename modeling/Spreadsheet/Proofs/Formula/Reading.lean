import Spreadsheet.Formula.Reading
import Spreadsheet.Proofs.Formula.Grammar

/-
  What a reading accepts.

  A reading keeps the operators and brackets that are still
  open on a stack.  An operator that comes next takes those on
  the stack that bind as close or closer, and a stack on which
  it finds none is closed on its level.

  A derivation can be followed by a reading: from any stack
  closed on the level of its nonterminal it ends with an
  operand in hand that looser operators see as the tree that
  is derived.  In the other direction the frames on the stack
  say what was derived so far, and brackets that are open can
  always be closed.  So the lexemes that are accepted are just
  those with which some formula begins.

  Key definitions include:
    * `Spreadsheet.Reading.read?`
    * `Spreadsheet.Reading.Closed`
    * `Spreadsheet.Reading.Follows`
    * `Spreadsheet.Reading.StackOf`
    * `Spreadsheet.Reading.Of`
    * `Spreadsheet.Reading.Completes`

  Main results:
    * `Spreadsheet.Reading.read?_of_sentence`
    * `Spreadsheet.Reading.of_read?`
    * `Spreadsheet.Reading.viable_iff`
    * `Spreadsheet.Expr.ofBody_longest_viable_prefix`
-/

------------------------------------------------------------
-- Reading Many Lexemes
------------------------------------------------------------

namespace Spreadsheet

namespace Reading

/- Read lexemes if all of them are accepted. -/
def read? :
    Reading → List Lexeme → Option Reading
  | reading, [] => some reading
  | reading, lexeme :: rest =>
      match reading.step? lexeme with
      | some next => next.read? rest
      | none => none

theorem read?_cons
    {reading next : Reading}
    {lexeme : Lexeme}
    (hStep : reading.step? lexeme = some next)
    (rest : List Lexeme) :
    reading.read? (lexeme :: rest) = next.read? rest := by
  simp only [read?, hStep]

/- Lexemes in two parts are read one part after the other. -/
theorem read?_append
    (reading : Reading)
    (first rest : List Lexeme) :
    reading.read? (first ++ rest) =
      (reading.read? first).bind (·.read? rest) := by
  induction first generalizing reading with
  | nil => rfl
  | cons lexeme others ih =>
      simp only [List.cons_append, read?]
      cases reading.step? lexeme with
      | none => rfl
      | some next => exact ih next

theorem read?_append_of_eq
    {reading middle : Reading}
    {first : List Lexeme}
    (hFirst : reading.read? first = some middle)
    (rest : List Lexeme) :
    reading.read? (first ++ rest) = middle.read? rest := by
  rw [read?_append, hFirst, Option.bind_some]

/-
  A reading advances over the lexemes that are accepted, up to
  one that is not.
-/
theorem advance_spec
    (reading : Reading)
    (last : Lexeme)
    (ts : List Lexeme) :
    ∃ accepted rest,
      ts = accepted ++ rest ∧
      reading.read? accepted =
        some (reading.advance last ts).1 ∧
      (reading.advance last ts).2 =
        accepted.getLast?.getD last ∧
      ∀ lexeme ∈ rest.head?,
        (reading.advance last ts).1.step? lexeme = none := by
  induction ts generalizing reading last with
  | nil => exact ⟨[], [], rfl, rfl, rfl, by simp⟩
  | cons lexeme others ih =>
      cases hStep : reading.step? lexeme with
      | none =>
          refine ⟨[], lexeme :: others, rfl, ?_, ?_, ?_⟩
          · simp only [advance, hStep, read?]
          · simp only [advance, hStep]
            rfl
          · simp [advance, hStep]
      | some next =>
          rcases ih next lexeme with
            ⟨accepted, rest, hSplit, hRead, hLast, hStop⟩
          refine ⟨lexeme :: accepted, rest, ?_, ?_, ?_, ?_⟩
          · rw [hSplit, List.cons_append]
          · simp only [read?_cons hStep, advance, hStep]
            exact hRead
          · simp only [advance, hStep]
            rw [hLast, List.getLast?_cons, Option.getD_some]
          · simp only [advance, hStep]
            exact hStop

end Reading

end Spreadsheet

------------------------------------------------------------
-- Closed Stacks
------------------------------------------------------------

namespace Spreadsheet

namespace Reading

/- An operator on a level finds no frame to take. -/
def Closed
    (level : Nat) :
    List Frame → Prop
  | .unary _ :: _ => False
  | .binary op _ :: _ => op.level < level
  | _ => True

/- A closed stack is closed on closer levels too. -/
theorem Closed.mono
    {less level : Nat}
    (hLevel : less ≤ level)
    {stack : List Frame}
    (hClosed : Closed less stack) :
    Closed level stack := by
  match stack with
  | [] => trivial
  | .unary op :: rest => exact hClosed
  | .binary op left :: rest =>
      exact Nat.lt_of_lt_of_le hClosed hLevel
  | .group :: rest => trivial
  | .call name arguments :: rest => trivial

theorem absorb_of_closed
    {level : Nat}
    {stack : List Frame}
    (hClosed : Closed level stack)
    (operand : Expr) :
    absorb level stack operand = (stack, operand) := by
  match stack with
  | [] => rfl
  | .unary op :: rest => exact hClosed.elim
  | .binary op left :: rest =>
      exact if_neg (Nat.not_le_of_lt hClosed)
  | .group :: rest => rfl
  | .call name arguments :: rest => rfl

@[simp] theorem absorb_unary
    (level : Nat)
    (op : UnaryOp)
    (stack : List Frame)
    (operand : Expr) :
    absorb level (.unary op :: stack) operand =
      absorb level stack (.unary op operand) :=
  rfl

theorem absorb_binary
    {level : Nat}
    {op : BinaryOp}
    (hLevel : level ≤ op.level)
    (left : Expr)
    (stack : List Frame)
    (operand : Expr) :
    absorb level (.binary op left :: stack) operand =
      absorb level stack (.binary op left operand) :=
  if_pos hLevel

/- What is left on a stack is closed and no longer. -/
theorem closed_absorb
    (level : Nat)
    (stack : List Frame)
    (operand : Expr) :
    Closed level (absorb level stack operand).1 ∧
      (absorb level stack operand).1.length ≤
        stack.length := by
  induction stack generalizing operand with
  | nil => exact ⟨trivial, Nat.le_refl 0⟩
  | cons frame rest ih =>
      cases frame with
      | unary op =>
          rw [absorb_unary]
          exact ⟨(ih _).1, Nat.le_succ_of_le (ih _).2⟩
      | binary op left =>
          by_cases hLevel : level ≤ op.level
          · rw [absorb_binary hLevel]
            exact ⟨(ih _).1, Nat.le_succ_of_le (ih _).2⟩
          · have hClosed :
                Closed level (.binary op left :: rest) :=
              Nat.lt_of_not_le hLevel
            rw [absorb_of_closed hClosed]
            exact ⟨hClosed, Nat.le_refl _⟩
      | group => exact ⟨trivial, Nat.le_refl _⟩
      | call name arguments =>
          exact ⟨trivial, Nat.le_refl _⟩

end Reading

end Spreadsheet

------------------------------------------------------------
-- Following A Derivation
------------------------------------------------------------

namespace Spreadsheet

namespace Reading

/-
  From a stack closed on a level, lexemes are read up to an
  operand.  Operators that are no closer take it, with what
  was left open in front of it, as they would take a formula.
-/
def Follows
    (level : Nat)
    (ts : List Lexeme)
    (formula : Expr) : Prop :=
  ∀ stack, (level ≤ 5 → Closed level stack) →
    ∃ inner operand,
      (expecting stack).read? ts =
        some (holding inner operand) ∧
      ∀ less, less ≤ level →
        absorb less inner operand =
          absorb less stack formula

/-
  Behind the bracket of a call and some arguments, lexemes are
  read up to an operand that is the last of more arguments.
-/
def FollowsSome
    (ts : List Lexeme)
    (arguments : List Expr) : Prop :=
  ∀ name before stack,
    ∃ inner operand others last,
      (expecting (.call name before :: stack)).read? ts =
        some (holding inner operand) ∧
      arguments = others ++ [last] ∧
      absorb 0 inner operand =
        (.call name (before ++ others) :: stack, last)

/-
  Behind the bracket of a call, lexemes and the bracket that
  closes it are read as the call.
-/
def FollowsArguments
    (ts : List Lexeme)
    (arguments : List Expr) : Prop :=
  ∀ name stack closed, closed.kind = .closeParen →
    (expecting (.call name [] :: stack)).read?
        (ts ++ [closed]) =
      some (holding stack (.call name arguments))

theorem follows_pass
    {upper lower : Nonterminal}
    (hNext : upper.next? = some lower)
    {ts : List Lexeme}
    {formula : Expr}
    (hLower : Follows lower.level ts formula) :
    Follows upper.level ts formula := by
  intro stack hStack
  have hLevel := Nonterminal.level_of_next? hNext
  rcases hLower stack fun hLow =>
      (hStack (by omega)).mono (by omega) with
    ⟨inner, operand, hRead, hAbsorb⟩
  exact ⟨inner, operand, hRead, fun less hLess =>
    hAbsorb less (by omega)⟩

theorem level_le_five
    (op : BinaryOp) :
    op.level ≤ 5 := by
  cases op <;> simp [BinaryOp.level]

/- An operator takes its left side and waits for the right. -/
theorem follows_binary
    {upper lower : Nonterminal}
    {op : BinaryOp}
    (hOperator : op ∈ upper.operators)
    (hNext : upper.next? = some lower)
    {sign : Lexeme}
    (hSign : sign.kind = .operator op)
    {left right : List Lexeme}
    {a b : Expr}
    (hLeft : Follows upper.level left a)
    (hRight : Follows lower.level right b) :
    Follows upper.level (left ++ sign :: right)
      (.binary op a b) := by
  intro stack hStack
  have hOp := Nonterminal.level_of_mem_operators hOperator
  have hLevel := Nonterminal.level_of_next? hNext
  have hFive := level_le_five op
  have hClosed : Closed op.level stack := by
    rw [hOp]
    exact hStack (by omega)
  rcases hLeft stack hStack with
    ⟨inner, operand, hRead, hAbsorb⟩
  have hTaken :
      absorb op.level inner operand = (stack, a) := by
    rw [hAbsorb op.level (by omega),
      absorb_of_closed hClosed]
  have hStep :
      (holding inner operand).step? sign =
        some (expecting (.binary op a :: stack)) := by
    simp only [step?, stepHolding?, hSign, hTaken]
  -- The right side is on a closer level, so that it leaves
  -- the operator on the stack.
  rcases hRight (.binary op a :: stack) fun _ =>
      (show op.level < lower.level by omega) with
    ⟨inner', operand', hRead', hAbsorb'⟩
  refine ⟨inner', operand', ?_, ?_⟩
  · rw [read?_append_of_eq hRead, read?_cons hStep]
    exact hRead'
  · intro less hLess
    rw [hAbsorb' less (by omega),
      absorb_binary (by omega)]

/- A sign in front waits for its operand. -/
theorem follows_unary
    {binary : BinaryOp}
    {op : UnaryOp}
    (hOperator : UnaryOp.ofBinary? binary = some op)
    {sign : Lexeme}
    (hSign : sign.kind = .operator binary)
    {ts : List Lexeme}
    {formula : Expr}
    (hOperand : Follows 6 ts formula) :
    Follows 6 (sign :: ts) (.unary op formula) := by
  intro stack hStack
  have hStep :
      (expecting stack).step? sign =
        some (expecting (.unary op :: stack)) := by
    simp only [step?, stepExpecting?, hSign, hOperator,
      Option.map_some]
  rcases hOperand (.unary op :: stack) (by omega) with
    ⟨inner, operand, hRead, hAbsorb⟩
  refine ⟨inner, operand, ?_, ?_⟩
  · rw [read?_cons hStep]
    exact hRead
  · intro less hLess
    rw [hAbsorb less hLess, absorb_unary]

theorem leaf?_of_leaf
    {lexeme : Lexeme}
    {formula : Expr}
    (hLeaf : Leaf lexeme formula)
    (stack : List Frame) :
    (expecting stack).step? lexeme =
      some (holding stack formula) := by
  cases hLeaf <;>
    simp only [step?, stepExpecting?, leaf?, *, Option.map_some]

theorem follows_leaf
    {lexeme : Lexeme}
    {formula : Expr}
    (hLeaf : Leaf lexeme formula) :
    Follows 7 [lexeme] formula := by
  intro stack hStack
  refine ⟨stack, formula, ?_, fun _ _ => rfl⟩
  rw [read?_cons (leaf?_of_leaf hLeaf stack)]
  rfl

/- A group is closed by the bracket behind it. -/
theorem follows_group
    {opened closed : Lexeme}
    (hOpened : opened.kind = .openParen)
    (hClosed : closed.kind = .closeParen)
    {ts : List Lexeme}
    {formula : Expr}
    (hFormula : Follows 1 ts formula) :
    Follows 7 (opened :: (ts ++ [closed])) formula := by
  intro stack hStack
  have hOpen :
      (expecting stack).step? opened =
        some (expecting (.group :: stack)) := by
    simp only [step?, stepExpecting?, hOpened]
  rcases hFormula (.group :: stack) (fun _ => trivial) with
    ⟨inner, operand, hRead, hAbsorb⟩
  have hTaken :
      absorb 0 inner operand = (.group :: stack, formula) :=
    hAbsorb 0 (Nat.zero_le 1)
  have hClose :
      (holding inner operand).step? closed =
        some (holding stack formula) := by
    simp only [step?, stepHolding?, hClosed, hTaken]
  refine ⟨stack, formula, ?_, fun _ _ => rfl⟩
  rw [read?_cons hOpen, read?_append_of_eq hRead,
    read?_cons hClose]
  rfl

theorem followsSome_first
    {ts : List Lexeme}
    {formula : Expr}
    (hFormula : Follows 1 ts formula) :
    FollowsSome ts [formula] := by
  intro name before stack
  rcases hFormula (.call name before :: stack)
      (fun _ => trivial) with
    ⟨inner, operand, hRead, hAbsorb⟩
  refine ⟨inner, operand, [], formula, hRead, rfl, ?_⟩
  rw [hAbsorb 0 (Nat.zero_le 1), List.append_nil]
  rfl

/- A comma takes an argument and waits for the next one. -/
theorem followsSome_next
    {comma : Lexeme}
    (hComma : comma.kind = .comma)
    {ts rest : List Lexeme}
    {arguments : List Expr}
    {formula : Expr}
    (hSome : FollowsSome ts arguments)
    (hFormula : Follows 1 rest formula) :
    FollowsSome (ts ++ comma :: rest)
      (arguments ++ [formula]) := by
  intro name before stack
  rcases hSome name before stack with
    ⟨inner, operand, others, last, hRead, rfl, hAbsorb⟩
  have hStep :
      (holding inner operand).step? comma =
        some (expecting (.call name
          (before ++ others ++ [last]) :: stack)) := by
    simp only [step?, stepHolding?, hComma, hAbsorb]
  rcases hFormula
      (.call name (before ++ others ++ [last]) :: stack)
      (fun _ => trivial) with
    ⟨inner', operand', hRead', hAbsorb'⟩
  refine ⟨inner', operand', others ++ [last], formula, ?_,
    rfl, ?_⟩
  · rw [read?_append_of_eq hRead, read?_cons hStep]
    exact hRead'
  · rw [hAbsorb' 0 (Nat.zero_le 1), ← List.append_assoc]
    rfl

theorem followsArguments_none :
    FollowsArguments [] [] := by
  intro name stack closed hClosed
  have hStep :
      (expecting (.call name [] :: stack)).step? closed =
        some (holding stack (.call name [])) := by
    simp only [step?, stepExpecting?, hClosed]
  rw [List.nil_append, read?_cons hStep]
  rfl

theorem followsArguments_some
    {ts : List Lexeme}
    {arguments : List Expr}
    (hSome : FollowsSome ts arguments) :
    FollowsArguments ts arguments := by
  intro name stack closed hClosed
  rcases hSome name [] stack with
    ⟨inner, operand, others, last, hRead, rfl, hAbsorb⟩
  have hStep :
      (holding inner operand).step? closed =
        some (holding stack
          (.call name (others ++ [last]))) := by
    simp only [step?, stepHolding?, hClosed, hAbsorb,
      List.nil_append]
  rw [read?_append_of_eq hRead, read?_cons hStep]
  rfl

/- A call is read as the arguments between its brackets. -/
theorem follows_call
    {function opened closed : Lexeme}
    (hFunction : function.kind = .function)
    (hOpened : opened.kind = .openParen)
    (hClosed : closed.kind = .closeParen)
    {ts : List Lexeme}
    {arguments : List Expr}
    (hArguments : FollowsArguments ts arguments) :
    Follows 7 (function :: opened :: (ts ++ [closed]))
      (.call (String.ofList function.written) arguments) := by
  intro stack hStack
  have hName :
      (expecting stack).step? function =
        some (named (String.ofList function.written)
          stack) := by
    simp only [step?, stepExpecting?, hFunction]
  have hOpen :
      (named (String.ofList function.written) stack).step?
          opened =
        some (expecting (.call
          (String.ofList function.written) [] :: stack)) := by
    simp only [step?, hOpened, if_true]
  refine ⟨stack, _, ?_, fun _ _ => rfl⟩
  rw [read?_cons hName, read?_cons hOpen]
  exact hArguments _ stack closed hClosed

mutual

/- A reading follows every derivation. -/
theorem follows_of_derives
    {nonterminal : Nonterminal}
    {ts : List Lexeme}
    {formula : Expr} :
    Derives nonterminal ts formula →
      Follows nonterminal.level ts formula
  | .pass hNext hLower =>
      follows_pass hNext (follows_of_derives hLower)
  | .binary hOperator hNext hSign hLeft hRight =>
      follows_binary hOperator hNext hSign
        (follows_of_derives hLeft)
        (follows_of_derives hRight)
  | .neg hSign hOperand =>
      follows_unary rfl hSign (follows_of_derives hOperand)
  | .pos hSign hOperand =>
      follows_unary rfl hSign (follows_of_derives hOperand)
  | .leaf hLeaf => follows_leaf hLeaf
  | .call hFunction hOpened hArguments hClosed =>
      follows_call hFunction hOpened hClosed
        (follows_of_derivesArguments hArguments)
  | .group hOpened hFormula hClosed =>
      follows_group hOpened hClosed
        (follows_of_derives hFormula)

theorem follows_of_derivesArguments
    {ts : List Lexeme}
    {arguments : List Expr} :
    DerivesArguments ts arguments →
      FollowsArguments ts arguments
  | .none => followsArguments_none
  | .some hSome =>
      followsArguments_some (follows_of_derivesSome hSome)

theorem follows_of_derivesSome
    {ts : List Lexeme}
    {arguments : List Expr} :
    DerivesSome ts arguments →
      FollowsSome ts arguments
  | .first hFormula =>
      followsSome_first (follows_of_derives hFormula)
  | .next hSome hComma hFormula =>
      followsSome_next hComma (follows_of_derivesSome hSome)
        (follows_of_derives hFormula)

end

end Reading

end Spreadsheet

------------------------------------------------------------
-- What A Reading Has Derived
------------------------------------------------------------

namespace Spreadsheet

namespace Reading

/-
  The lexemes behind the bracket of a call that have become
  arguments, where another argument must follow unless there
  is none yet.
-/
inductive BehindBracket :
    List Lexeme → List Expr → Prop where
  | none : BehindBracket [] []
  | comma
      {ts comma arguments}
      (hSome : DerivesSome ts arguments)
      (hComma : comma.kind = .comma) :
      BehindBracket (ts ++ [comma]) arguments

/- The lexemes that have become the frames of a stack. -/
inductive StackOf :
    List Frame → List Lexeme → Prop where
  | nil : StackOf [] []
  | unary
      {stack ts sign binary op}
      (hStack : StackOf stack ts)
      (hSign : sign.kind = .operator binary)
      (hOperator : UnaryOp.ofBinary? binary = some op) :
      StackOf (.unary op :: stack) (ts ++ [sign])
  | binary
      {stack ts left op a sign}
      (hStack : StackOf stack ts)
      (hClosed : Closed op.level stack)
      (hLeft : Derives (.ofOperator op) left a)
      (hSign : sign.kind = .operator op) :
      StackOf (.binary op a :: stack)
        (ts ++ (left ++ [sign]))
  | group
      {stack ts opened}
      (hStack : StackOf stack ts)
      (hOpened : opened.kind = .openParen) :
      StackOf (.group :: stack) (ts ++ [opened])
  | call
      {stack ts function opened inside arguments}
      (hStack : StackOf stack ts)
      (hFunction : function.kind = .function)
      (hOpened : opened.kind = .openParen)
      (hInside : BehindBracket inside arguments) :
      StackOf
        (.call (String.ofList function.written) arguments ::
          stack)
        (ts ++ function :: opened :: inside)

/- The lexemes that have become a reading. -/
inductive Of :
    Reading → List Lexeme → Prop where
  | expecting
      {stack ts}
      (hStack : StackOf stack ts) :
      Of (.expecting stack) ts
  | named
      {stack ts function}
      (hStack : StackOf stack ts)
      (hFunction : function.kind = .function) :
      Of (.named (String.ofList function.written) stack)
        (ts ++ [function])
  | holding
      {stack ts rest operand}
      (hStack : StackOf stack ts)
      (hOperand : Derives .atom rest operand) :
      Of (.holding stack operand) (ts ++ rest)

/- A further argument makes arguments, one at least. -/
theorem BehindBracket.next
    {inside ts : List Lexeme}
    {arguments : List Expr}
    {formula : Expr}
    (hInside : BehindBracket inside arguments)
    (hFormula : Derives .comparison ts formula) :
    DerivesSome (inside ++ ts) (arguments ++ [formula]) := by
  cases hInside with
  | none => exact .first hFormula
  | comma hSome hComma =>
      rw [List.append_assoc]
      exact .next hSome hComma hFormula

/- Where no argument was read, nothing was. -/
theorem BehindBracket.eq_nil
    {inside : List Lexeme}
    (hInside : BehindBracket inside []) :
    inside = [] := by
  generalize hNone : ([] : List Expr) = arguments at hInside
  cases hInside with
  | none => rfl
  | comma hSome hComma => exact absurd hNone.symm hSome.ne_nil

/- A sign in front of a formula makes a formula. -/
theorem derives_unary
    {binary : BinaryOp}
    {op : UnaryOp}
    (hOperator : UnaryOp.ofBinary? binary = some op)
    {sign : Lexeme}
    (hSign : sign.kind = .operator binary)
    {ts : List Lexeme}
    {formula : Expr}
    (hOperand : Derives .unary ts formula) :
    Derives .unary (sign :: ts) (.unary op formula) := by
  cases binary <;> cases hOperator
  · exact .pos hSign hOperand
  · exact .neg hSign hOperand

/- An operator between two sides makes a formula. -/
theorem derives_binary
    {op : BinaryOp}
    {sign : Lexeme}
    (hSign : sign.kind = .operator op)
    {left right : List Lexeme}
    {a b : Expr}
    (hLeft : Derives (.ofOperator op) left a)
    {nonterminal : Nonterminal}
    (hLevel : op.level < nonterminal.level)
    (hRight : Derives nonterminal right b) :
    Derives (.ofOperator op) (left ++ sign :: right)
      (.binary op a b) := by
  cases hNext : (Nonterminal.ofOperator op).next? with
  | none => cases op <;> cases hNext
  | some lower =>
      have hLower := Nonterminal.level_of_next? hNext
      rw [Nonterminal.level_ofOperator] at hLower
      exact .binary (Nonterminal.mem_operators_ofOperator op)
        hNext hSign hLeft (hRight.weaken (by omega))

/-
  What frames an operator takes, the operand they make is
  derived from their lexemes.
-/
theorem derives_absorb
    {level : Nat}
    (hLow : level ≤ 5)
    {stack : List Frame}
    {ts : List Lexeme}
    (hStack : StackOf stack ts)
    {nonterminal : Nonterminal}
    {rest : List Lexeme}
    {operand : Expr}
    (hOperand : Derives nonterminal rest operand)
    (hLevel : level ≤ nonterminal.level)
    (hClosed : nonterminal.level ≤ 5 →
      Closed nonterminal.level stack) :
    ∃ front back final,
      ts ++ rest = front ++ back ∧
      StackOf (absorb level stack operand).1 front ∧
      Derives final back (absorb level stack operand).2 ∧
      level ≤ final.level := by
  induction hStack generalizing nonterminal rest operand with
  | nil =>
      exact ⟨[], rest, nonterminal, rfl, .nil, hOperand,
        hLevel⟩
  | @unary stack ts sign binary op hStack hSign hOperator
      ih =>
      have hClose :
          Nonterminal.unary.level ≤ nonterminal.level :=
        Nat.lt_of_not_le hClosed
      have hSigned :=
        derives_unary hOperator hSign
          (hOperand.weaken hClose)
      rcases ih hSigned (Nat.le_succ_of_le hLow)
          (fun hLess => absurd hLess (by decide)) with
        ⟨front, back, final, hSplit, hRest⟩
      refine ⟨front, back, final, ?_, hRest⟩
      rw [← hSplit, List.append_assoc,
        List.singleton_append]
  | @binary stack ts left op a sign hStack hBelow hLeft hSign
      ih =>
      by_cases hTaken : level ≤ op.level
      · have hClose : op.level < nonterminal.level := by
          by_cases hFive : nonterminal.level ≤ 5
          · exact hClosed hFive
          · have hOp := level_le_five op
            omega
        -- The operation is on the level of its operator, on
        -- which the frames below are closed.
        have hBoth :=
          derives_binary hSign hLeft hClose hOperand
        rcases ih hBoth
            (by rwa [Nonterminal.level_ofOperator])
            (by
              rw [Nonterminal.level_ofOperator]
              exact fun _ => hBelow) with
          ⟨front, back, final, hSplit, hRest⟩
        rw [absorb_binary hTaken]
        refine ⟨front, back, final, ?_, hRest⟩
        rw [← hSplit]
        simp only [List.append_assoc,
          List.singleton_append]
      · have hStay :
            Closed level (.binary op a :: stack) :=
          Nat.lt_of_not_le hTaken
        rw [absorb_of_closed hStay]
        exact ⟨_, rest, nonterminal, rfl,
          .binary hStack hBelow hLeft hSign, hOperand,
          hLevel⟩
  | group hStack hOpened ih =>
      exact ⟨_, rest, nonterminal, rfl,
        .group hStack hOpened, hOperand, hLevel⟩
  | call hStack hFunction hOpened hInside ih =>
      exact ⟨_, rest, nonterminal, rfl,
        .call hStack hFunction hOpened hInside, hOperand,
        hLevel⟩

/- What an operator takes in front of an atom is derived. -/
theorem derives_absorb_atom
    {level : Nat}
    (hLow : level ≤ 5)
    {stack : List Frame}
    {ts rest : List Lexeme}
    {operand : Expr}
    (hStack : StackOf stack ts)
    (hOperand : Derives .atom rest operand) :
    ∃ front back final,
      ts ++ rest = front ++ back ∧
      StackOf (absorb level stack operand).1 front ∧
      Derives final back (absorb level stack operand).2 ∧
      level ≤ final.level :=
  derives_absorb hLow hStack hOperand
    (Nat.le_trans hLow (by decide))
    (fun hLess => absurd hLess (by decide))

theorem leaf_of_leaf?
    {lexeme : Lexeme}
    {formula : Expr}
    (hLeaf : leaf? lexeme = some formula) :
    Leaf lexeme formula := by
  unfold leaf? at hLeaf
  split at hLeaf <;> cases hLeaf
  · exact .number ‹_›
  · exact .string ‹_›
  · exact .word ‹_›
  · exact .boolean ‹_›
  · exact .cell ‹_›
  · exact .range ‹_›

/- Where an operand must follow, a lexeme becomes a part. -/
theorem of_stepExpecting?
    {stack : List Frame}
    {ts : List Lexeme}
    (hStack : StackOf stack ts)
    {lexeme : Lexeme}
    {next : Reading}
    (hStep : stepExpecting? stack lexeme = some next) :
    Of next (ts ++ [lexeme]) := by
  unfold stepExpecting? at hStep
  split at hStep
  · rename_i op hKind
    cases hOperator : UnaryOp.ofBinary? op with
    | none => simp [hOperator] at hStep
    | some unary =>
        simp only [hOperator, Option.map_some] at hStep
        cases hStep
        exact .expecting (.unary hStack hKind hOperator)
  · rename_i hKind
    cases hStep
    exact .expecting (.group hStack hKind)
  · rename_i hKind
    cases hStep
    exact .named hStack hKind
  · rename_i hKind
    split at hStep
    · cases hStep
      cases hStack with
      | call hRest hFunction hOpened hInside =>
          have hCall :=
            Of.holding hRest
              (.call hFunction hOpened .none hKind)
          rw [hInside.eq_nil]
          simpa using hCall
    · cases hStep
  · cases hLeaf : leaf? lexeme with
    | none => simp [hLeaf] at hStep
    | some formula =>
        simp only [hLeaf, Option.map_some] at hStep
        cases hStep
        exact .holding hStack (.leaf (leaf_of_leaf? hLeaf))

/- Behind an operand a lexeme becomes a part. -/
theorem of_stepHolding?
    {stack : List Frame}
    {ts rest : List Lexeme}
    {operand : Expr}
    (hStack : StackOf stack ts)
    (hOperand : Derives .atom rest operand)
    {lexeme : Lexeme}
    {next : Reading}
    (hStep :
      stepHolding? stack operand lexeme = some next) :
    Of next (ts ++ rest ++ [lexeme]) := by
  unfold stepHolding? at hStep
  split at hStep
  · rename_i op hKind
    rcases derives_absorb_atom (level_le_five op) hStack
        hOperand with
      ⟨front, back, final, hSplit, hFront, hBack, hFinal⟩
    cases hStep
    rw [← Nonterminal.level_ofOperator] at hFinal
    rw [hSplit, List.append_assoc]
    exact .expecting (.binary hFront
      (closed_absorb op.level stack operand).1
      (hBack.weaken hFinal) hKind)
  · rename_i hKind
    rcases derives_absorb_atom (Nat.zero_le 5) hStack
        hOperand with
      ⟨front, back, final, hSplit, hFront, hBack, hFinal⟩
    split at hStep
    · rename_i hTaken
      cases hStep
      simp only [hTaken] at hFront hBack
      cases hFront with
      | call hRest hFunction hOpened hInside =>
          have hArguments := hInside.next hBack.sentence
          have hCall :=
            Of.expecting (.call hRest hFunction hOpened
              (.comma hArguments hKind))
          rw [hSplit]
          simpa using hCall
    · cases hStep
  · rename_i hKind
    rcases derives_absorb_atom (Nat.zero_le 5) hStack
        hOperand with
      ⟨front, back, final, hSplit, hFront, hBack, hFinal⟩
    split at hStep
    · rename_i hTaken
      cases hStep
      simp only [hTaken] at hFront hBack
      cases hFront with
      | group hRest hOpened =>
          have hGroup :=
            Of.holding hRest
              (.group hOpened hBack.sentence hKind)
          rw [hSplit]
          simpa using hGroup
    · rename_i hTaken
      cases hStep
      simp only [hTaken] at hFront hBack
      cases hFront with
      | call hRest hFunction hOpened hInside =>
          have hArguments := hInside.next hBack.sentence
          have hCall :=
            Of.holding hRest
              (.call hFunction hOpened (.some hArguments)
                hKind)
          rw [hSplit]
          simpa using hCall
    · cases hStep
  · cases hStep

/- Each lexeme that is accepted becomes a part. -/
theorem of_step?
    {reading next : Reading}
    {ts : List Lexeme}
    (hOf : Of reading ts)
    {lexeme : Lexeme}
    (hStep : reading.step? lexeme = some next) :
    Of next (ts ++ [lexeme]) := by
  cases hOf with
  | expecting hStack => exact of_stepExpecting? hStack hStep
  | named hStack hFunction =>
      simp only [step?] at hStep
      split at hStep
      · rename_i hKind
        cases hStep
        have hCall :=
          Of.expecting
            (.call hStack hFunction hKind .none)
        simpa using hCall
      · cases hStep
  | holding hStack hOperand =>
      exact of_stepHolding? hStack hOperand hStep

/- All lexemes that are accepted become parts. -/
theorem of_read?
    {reading final : Reading}
    {before ts : List Lexeme}
    (hOf : Of reading before)
    (hRead : reading.read? ts = some final) :
    Of final (before ++ ts) := by
  induction ts generalizing reading before with
  | nil =>
      cases hRead
      rwa [List.append_nil]
  | cons lexeme rest ih =>
      rw [read?] at hRead
      cases hStep : reading.step? lexeme with
      | none => simp [hStep] at hRead
      | some next =>
          simp only [hStep] at hRead
          have hRest := ih (of_step? hOf hStep) hRead
          simpa using hRest

/- A reading that is complete has read its formula. -/
theorem sentence_of_finish?
    {reading : Reading}
    {ts : List Lexeme}
    (hOf : Of reading ts)
    {formula : Expr}
    (hFinish : reading.finish? = some formula) :
    Sentence ts formula := by
  cases hOf with
  | expecting hStack => cases hFinish
  | named hStack hFunction => cases hFinish
  | holding hStack hOperand =>
      rcases derives_absorb_atom (Nat.zero_le 5) hStack
          hOperand with
        ⟨front, back, final, hSplit, hFront, hBack, -⟩
      simp only [finish?] at hFinish
      split at hFinish
      · rename_i hTaken
        cases hFinish
        simp only [hTaken] at hFront hBack
        cases hFront
        rw [hSplit]
        exact hBack.sentence
      · cases hFinish

end Reading

end Spreadsheet

------------------------------------------------------------
-- Completing A Reading
------------------------------------------------------------

namespace Spreadsheet

namespace Reading

/- A bracket that closes. -/
def closing : Lexeme := ⟨.closeParen, [')'], 0⟩

/- With some more lexemes a reading is of a whole formula. -/
def Completes
    (reading : Reading) : Prop :=
  ∃ rest final formula,
    reading.read? rest = some final ∧
    final.finish? = some formula

theorem Completes.of_step?
    {reading next : Reading}
    {lexeme : Lexeme}
    (hStep : reading.step? lexeme = some next)
    (hNext : next.Completes) :
    reading.Completes := by
  rcases hNext with ⟨rest, final, formula, hRead, hFinish⟩
  refine ⟨lexeme :: rest, final, formula, ?_, hFinish⟩
  rwa [read?_cons hStep]

/- Brackets that are open can be closed. -/
theorem holding_completes
    (stack : List Frame)
    (operand : Expr) :
    (holding stack operand).Completes := by
  induction hLength : stack.length using Nat.strongRecOn
      generalizing stack operand with
  | ind length ih =>
      have hLeft := closed_absorb 0 stack operand
      cases hTaken : absorb 0 stack operand with
      | mk left formula =>
          rw [hTaken] at hLeft
          match left with
          | [] =>
              refine ⟨[], _, formula, rfl, ?_⟩
              simp only [finish?, hTaken]
          | .unary op :: inner => exact hLeft.1.elim
          | .binary op side :: inner =>
              exact absurd hLeft.1 (Nat.not_lt_zero _)
          | .group :: inner =>
              have hStep :
                  (holding stack operand).step? closing =
                    some (holding inner formula) := by
                simp only [step?, stepHolding?, closing,
                  hTaken]
              apply Completes.of_step? hStep
              exact ih inner.length (hLength ▸ hLeft.2) inner
                formula rfl
          | .call name arguments :: inner =>
              have hStep :
                  (holding stack operand).step? closing =
                    some (holding inner (.call name
                      (arguments ++ [formula]))) := by
                simp only [step?, stepHolding?, closing,
                  hTaken]
              apply Completes.of_step? hStep
              exact ih inner.length (hLength ▸ hLeft.2) inner
                _ rfl

/- A number can stand where an operand must follow. -/
theorem expecting_completes
    (stack : List Frame) :
    (expecting stack).Completes := by
  have hStep :
      (expecting stack).step? ⟨.number, ['0'], 0⟩ =
        some (holding stack (.number "0")) := by
    rfl
  exact .of_step? hStep (holding_completes stack _)

/- Every reading is of the beginning of a formula. -/
theorem completes
    (reading : Reading) :
    reading.Completes := by
  cases reading with
  | expecting stack => exact expecting_completes stack
  | named name stack =>
      have hStep :
          (named name stack).step? ⟨.openParen, ['('], 0⟩ =
            some (expecting (.call name [] :: stack)) := by
        rfl
      exact .of_step? hStep (expecting_completes _)
  | holding stack operand =>
      exact holding_completes stack operand

end Reading

end Spreadsheet

------------------------------------------------------------
-- Formulas And Their Beginnings
------------------------------------------------------------

namespace Spreadsheet

namespace Reading

/- A formula is read completely, with its tree. -/
theorem read?_of_sentence
    {ts : List Lexeme}
    {formula : Expr}
    (hSentence : Sentence ts formula) :
    ∃ final, start.read? ts = some final ∧
      final.finish? = some formula := by
  rcases follows_of_derives hSentence [] (fun _ => trivial)
    with ⟨inner, operand, hRead, hAbsorb⟩
  refine ⟨holding inner operand, hRead, ?_⟩
  have hWhole := hAbsorb 0 (Nat.zero_le _)
  simp only [finish?, hWhole]
  rfl

/- What was read completely is a formula, with its tree. -/
theorem sentence_of_read?
    {ts : List Lexeme}
    {final : Reading}
    (hRead : start.read? ts = some final)
    {formula : Expr}
    (hFinish : final.finish? = some formula) :
    Sentence ts formula :=
  sentence_of_finish?
    (of_read? (.expecting .nil) hRead) hFinish

/- The tree of a formula is unique. -/
theorem sentence_unique
    {ts : List Lexeme}
    {first second : Expr}
    (hFirst : Sentence ts first)
    (hSecond : Sentence ts second) :
    first = second := by
  rcases read?_of_sentence hFirst with
    ⟨final, hRead, hFinish⟩
  rcases read?_of_sentence hSecond with
    ⟨final', hRead', hFinish'⟩
  rw [hRead] at hRead'
  cases hRead'
  rw [hFinish] at hFinish'
  exact Option.some.inj hFinish'

/- The beginnings of formulas are what a reading accepts. -/
theorem viable_iff
    (ts : List Lexeme) :
    Viable ts ↔ ∃ reading, start.read? ts = some reading := by
  constructor
  · rintro ⟨rest, formula, hSentence⟩
    rcases read?_of_sentence hSentence with
      ⟨final, hRead, -⟩
    rw [read?_append] at hRead
    cases hFirst : start.read? ts with
    | none => simp [hFirst] at hRead
    | some reading => exact ⟨reading, rfl⟩
  · rintro ⟨reading, hRead⟩
    rcases reading.completes with
      ⟨rest, final, formula, hRest, hFinish⟩
    refine ⟨rest, formula, sentence_of_read? ?_ hFinish⟩
    rw [read?_append_of_eq hRead]
    exact hRest

end Reading

end Spreadsheet

------------------------------------------------------------
-- Reading A Body
------------------------------------------------------------

namespace Spreadsheet

/- The longest part at the front with which a formula begins. -/
structure LongestViable
    (ts accepted : List Lexeme) : Prop where
  is_front : accepted <+: ts
  viable : Viable accepted
  longest : ∀ other, other <+: ts → Viable other →
    other <+: accepted

namespace Reading

/- A reading advances over the longest viable front. -/
theorem longestViable_of_stop
    {accepted rest : List Lexeme}
    {reading : Reading}
    (hRead : start.read? accepted = some reading)
    (hStop : ∀ lexeme ∈ rest.head?,
      reading.step? lexeme = none) :
    LongestViable (accepted ++ rest) accepted where
  is_front := List.prefix_append accepted rest
  viable := (viable_iff accepted).mpr ⟨reading, hRead⟩
  longest := by
    intro other hOther hViable
    rcases (viable_iff other).mp hViable with
      ⟨final, hFinal⟩
    rcases List.prefix_or_prefix_of_prefix hOther
        (List.prefix_append accepted rest) with
      hFront | ⟨more, rfl⟩
    · exact hFront
    · cases more with
      | nil => simp only [List.append_nil, List.prefix_refl]
      | cons lexeme others =>
          have hMore :=
            (List.prefix_append_right_inj accepted).mp hOther
          have hHead : lexeme ∈ rest.head? := by
            rcases hMore with ⟨last, rfl⟩
            rfl
          rw [read?_append_of_eq hRead, read?,
            hStop lexeme hHead] at hFinal
          cases hFinal

/- Lexemes that are read to no end are no formula. -/
theorem not_sentence_of_finish?
    {ts : List Lexeme}
    {reading : Reading}
    (hRead : start.read? ts = some reading)
    (hFinish : reading.finish? = none)
    (formula : Expr) :
    ¬Sentence ts formula := by
  intro hSentence
  rcases read?_of_sentence hSentence with
    ⟨final, hRead', hFinish'⟩
  rw [hRead] at hRead'
  cases hRead'
  rw [hFinish] at hFinish'
  cases hFinish'

end Reading

namespace Expr

/-
  A body is read by its longest front with which a formula
  begins.  If this front is a formula, its one tree is the
  result, whatever follows.  If it is none, the fault is at
  its last lexeme, at the first lexeme of the body if it is
  empty, and at the end of a body without lexemes.
-/
theorem ofBody_longest_viable_prefix
    (body : List Char) :
    ∃ accepted,
      LongestViable (Lexeme.scan body) accepted ∧
      ((∃ formula,
          Sentence accepted formula ∧
          (∀ other, Sentence accepted other →
            other = formula) ∧
          ofBody body = .ok formula) ∨
        ((∀ formula, ¬Sentence accepted formula) ∧
          ∃ fault,
            ofBody body = .error fault ∧
            fault.position =
              ((accepted.getLast?.or
                (Lexeme.scan body).head?).map
                  Lexeme.start).getD body.length)) := by
  unfold ofBody
  cases hScan : Lexeme.scan body with
  | nil =>
      have hNothing : Reading.start.read? [] = some .start :=
        rfl
      refine ⟨[], ?_, Or.inr ⟨?_, _, rfl, rfl⟩⟩
      · exact Reading.longestViable_of_stop hNothing
          (by simp)
      · exact Reading.not_sentence_of_finish? hNothing rfl
  | cons first others =>
      rcases Reading.advance_spec .start first
          (first :: others) with
        ⟨accepted, rest, hSplit, hRead, hLast, hStop⟩
      refine ⟨accepted, ?_, ?_⟩
      · rw [hSplit]
        exact Reading.longestViable_of_stop hRead hStop
      · simp only [ofLexemes]
        cases hFinish : (Reading.start.advance first
            (first :: others)).1.finish? with
        | some formula =>
            have hSentence :=
              Reading.sentence_of_read? hRead hFinish
            refine Or.inl ⟨formula, hSentence, ?_, rfl⟩
            intro other hOther
            exact Reading.sentence_unique hOther hSentence
        | none =>
            refine Or.inr
              ⟨Reading.not_sentence_of_finish? hRead hFinish,
                _, rfl, ?_⟩
            simp only [ReadFault.position, hLast]
            cases accepted.getLast? <;> rfl

/- What follows a formula is ignored, but not a sign in it. -/
example :
    ofBody "1 2".toList = .ok (.number "1") ∧
      ofBody "1+)".toList = .error (.incomplete 1 2 1) := by
  exact ⟨by rfl, by rfl⟩

end Expr

end Spreadsheet
