import Spreadsheet.Formula.Lexeme

/-
  The grammar of formulas.

  Operators are on five levels.  An operation on one level has
  an operation on the same level on its left and one on the
  next level on its right, so that operators of one level
  group to the left.  Signs in front bind closer than all of
  them, and the closest are leaves, calls and formulas in
  parentheses, which leave no trace in the tree.

  Key definitions include:
    * `Spreadsheet.Nonterminal`
    * `Spreadsheet.Derives`
    * `Spreadsheet.Sentence`
    * `Spreadsheet.Viable`

  Main results:
    * `Spreadsheet.Derives.weaken`
    * `Spreadsheet.Derives.sentence`
-/

------------------------------------------------------------
-- Levels
------------------------------------------------------------

namespace Spreadsheet

/- What a part of a formula can be, from loose to close. -/
inductive Nonterminal where
  | comparison
  | concatenation
  | additive
  | multiplicative
  | power
  | unary
  | atom

namespace Nonterminal

/- What stands for a nonterminal without an operator. -/
def next? :
    Nonterminal → Option Nonterminal
  | comparison => some concatenation
  | concatenation => some additive
  | additive => some multiplicative
  | multiplicative => some power
  | power => some unary
  | unary => some atom
  | atom => none

/- The operators between a nonterminal and the next one. -/
def operators :
    Nonterminal → List BinaryOp
  | comparison =>
      [.compare .eq, .compare .ne, .compare .lt,
        .compare .gt, .compare .le, .compare .ge]
  | concatenation => [.concat]
  | additive => [.add, .sub]
  | multiplicative => [.mul, .div, .mod]
  | power => [.pow]
  | unary => []
  | atom => []

/- How close a nonterminal binds. -/
def level :
    Nonterminal → Nat
  | comparison => 1
  | concatenation => 2
  | additive => 3
  | multiplicative => 4
  | power => 5
  | unary => 6
  | atom => 7

/- The nonterminal that has an operator. -/
def ofOperator :
    BinaryOp → Nonterminal
  | .compare _ => comparison
  | .concat => concatenation
  | .add => additive
  | .sub => additive
  | .mul => multiplicative
  | .div => multiplicative
  | .mod => multiplicative
  | .pow => power

theorem level_of_next?
    {upper lower : Nonterminal}
    (hNext : upper.next? = some lower) :
    lower.level = upper.level + 1 := by
  cases upper <;> cases hNext <;> rfl

theorem level_of_mem_operators
    {upper : Nonterminal}
    {op : BinaryOp}
    (hOperator : op ∈ upper.operators) :
    op.level = upper.level := by
  cases upper <;> simp [operators] at hOperator <;>
    rcases hOperator with rfl | rfl | rfl | rfl | rfl | rfl <;>
    rfl

theorem mem_operators_ofOperator
    (op : BinaryOp) :
    op ∈ (ofOperator op).operators := by
  cases op with
  | compare comparison =>
      cases comparison <;> simp [ofOperator, operators]
  | _ => simp [ofOperator, operators]

@[simp] theorem level_ofOperator
    (op : BinaryOp) :
    (ofOperator op).level = op.level := by
  cases op <;> rfl

end Nonterminal

end Spreadsheet

------------------------------------------------------------
-- Derivations
------------------------------------------------------------

namespace Spreadsheet

/- A lexeme that is a part of a formula by itself. -/
inductive Leaf :
    Lexeme → Expr → Prop where
  | number {lexeme} (hKind : lexeme.kind = .number) :
      Leaf lexeme (.number (String.ofList lexeme.written))
  | string {lexeme} (hKind : lexeme.kind = .string) :
      Leaf lexeme (.string (String.ofList lexeme.written))
  | word {lexeme} (hKind : lexeme.kind = .word) :
      Leaf lexeme (.word (String.ofList lexeme.written))
  | boolean {lexeme} (hKind : lexeme.kind = .boolean) :
      Leaf lexeme (.boolean (String.ofList lexeme.written))
  | cell {lexeme} (hKind : lexeme.kind = .cell) :
      Leaf lexeme (.cell (String.ofList lexeme.written))
  | range {lexeme} (hKind : lexeme.kind = .range) :
      Leaf lexeme (.range (String.ofList lexeme.written))

mutual

/- Lexemes are a nonterminal with a tree. -/
inductive Derives :
    Nonterminal → List Lexeme → Expr → Prop where
  | pass
      {upper lower ts formula}
      (hNext : upper.next? = some lower)
      (hLower : Derives lower ts formula) :
      Derives upper ts formula
  | binary
      {upper lower op sign left right a b}
      (hOperator : op ∈ upper.operators)
      (hNext : upper.next? = some lower)
      (hSign : sign.kind = .operator op)
      (hLeft : Derives upper left a)
      (hRight : Derives lower right b) :
      Derives upper (left ++ sign :: right) (.binary op a b)
  | neg
      {sign ts formula}
      (hSign : sign.kind = .operator .sub)
      (hOperand : Derives .unary ts formula) :
      Derives .unary (sign :: ts) (.unary .neg formula)
  | pos
      {sign ts formula}
      (hSign : sign.kind = .operator .add)
      (hOperand : Derives .unary ts formula) :
      Derives .unary (sign :: ts) (.unary .pos formula)
  | leaf
      {lexeme formula}
      (hLeaf : Leaf lexeme formula) :
      Derives .atom [lexeme] formula
  | call
      {function opened closed ts arguments}
      (hFunction : function.kind = .function)
      (hOpened : opened.kind = .openParen)
      (hArguments : DerivesArguments ts arguments)
      (hClosed : closed.kind = .closeParen) :
      Derives .atom (function :: opened :: (ts ++ [closed]))
        (.call (String.ofList function.written) arguments)
  | group
      {opened closed ts formula}
      (hOpened : opened.kind = .openParen)
      (hFormula : Derives .comparison ts formula)
      (hClosed : closed.kind = .closeParen) :
      Derives .atom (opened :: (ts ++ [closed])) formula

/- Lexemes are the arguments of a call, if there are any. -/
inductive DerivesArguments :
    List Lexeme → List Expr → Prop where
  | none : DerivesArguments [] []
  | some
      {ts arguments}
      (hSome : DerivesSome ts arguments) :
      DerivesArguments ts arguments

/- Lexemes are formulas with commas between them. -/
inductive DerivesSome :
    List Lexeme → List Expr → Prop where
  | first
      {ts formula}
      (hFormula : Derives .comparison ts formula) :
      DerivesSome ts [formula]
  | next
      {ts comma rest arguments formula}
      (hSome : DerivesSome ts arguments)
      (hComma : comma.kind = .comma)
      (hFormula : Derives .comparison rest formula) :
      DerivesSome (ts ++ comma :: rest)
        (arguments ++ [formula])

end

/- Lexemes are a whole formula. -/
def Sentence
    (ts : List Lexeme)
    (formula : Expr) : Prop :=
  Derives .comparison ts formula

/- Lexemes with which some formula begins. -/
def Viable
    (ts : List Lexeme) : Prop :=
  ∃ rest formula, Sentence (ts ++ rest) formula

namespace Derives

/- What binds closer stands also for what binds less close. -/
theorem weaken
    {upper lower : Nonterminal}
    (hLevel : upper.level ≤ lower.level)
    {ts : List Lexeme}
    {formula : Expr}
    (hLower : Derives lower ts formula) :
    Derives upper ts formula := by
  induction hSteps : lower.level - upper.level
      generalizing upper with
  | zero =>
      have hSame : upper = lower := by
        cases upper <;> cases lower <;>
          simp_all [Nonterminal.level]
      rwa [hSame]
  | succ steps ih =>
      cases hNext : upper.next? with
      | none =>
          cases upper <;> cases lower <;>
            simp_all [Nonterminal.level, Nonterminal.next?]
      | some middle =>
          have hMiddle := Nonterminal.level_of_next? hNext
          exact .pass hNext (ih (by omega) (by omega))

/- Whatever is derived is a whole formula by itself. -/
theorem sentence
    {nonterminal : Nonterminal}
    {ts : List Lexeme}
    {formula : Expr}
    (hDerives : Derives nonterminal ts formula) :
    Sentence ts formula := by
  refine hDerives.weaken ?_
  cases nonterminal <;> decide

end Derives

theorem DerivesSome.ne_nil
    {ts : List Lexeme}
    {arguments : List Expr}
    (hSome : DerivesSome ts arguments) :
    arguments ≠ [] := by
  cases hSome with
  | first hFormula => simp
  | next hSome hComma hFormula => simp

end Spreadsheet
