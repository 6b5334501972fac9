import LoxExpr.Proofs.Layout.OffLine
import LoxExpr.Proofs.Number.Texts
import LoxExpr.Proofs.RoundTrip.Writable
import Mathlib.Data.Bool.AllAny

/-
  This file shows that the text of a tree can be read in one
  way only.  What stands before the first separator tells
  what kind of tree it is, and the text of every part shows
  where it ends.  Strings are left out, since they stand
  without quotes.

  Key definitions include:
    * `Expr.Stringless`
    * `Expr.Legible`
    * `Expr.BeginAlike`
    * `Expr.IsRead`

  Main statements:
    * `Expr.isRead`
    * `tree_text_unambiguous`
-/

namespace LoxExpr

------------------------------------------------------------
-- Separators
------------------------------------------------------------

/- The characters that no word in a text of a tree has. -/
def IsSeparator (c : Char) : Prop :=
  c = ' ' ∨ c = ')'

instance : DecidablePred IsSeparator :=
  fun _ => inferInstanceAs (Decidable (_ ∨ _))

/- No character is a separator. -/
def IsUnbroken (w : List Char) : Prop :=
  ∀ c ∈ w, ¬ IsSeparator c

/- There is nothing, or a separator comes first. -/
def EndsWord (rest : List Char) : Prop :=
  ∀ c, rest.head? = some c → IsSeparator c

theorem endsWord_cons
    {c : Char}
    (hSeparator : IsSeparator c)
    (rest : List Char) :
    EndsWord (c :: rest) := by
  intro d hHead
  rwa [← Option.some.inj hHead]

theorem endsWord_blank (rest : List Char) :
    EndsWord (' ' :: rest) :=
  endsWord_cons (Or.inl rfl) rest

theorem endsWord_paren (rest : List Char) :
    EndsWord (')' :: rest) :=
  endsWord_cons (Or.inr rfl) rest

/- A word ends at the first separator. -/
theorem IsUnbroken.append_inj
    {w w' rest rest' : List Char}
    (hWord : IsUnbroken w)
    (hWord' : IsUnbroken w')
    (hEnd : EndsWord rest)
    (hEnd' : EndsWord rest')
    (hSame : w ++ rest = w' ++ rest') :
    w = w' ∧ rest = rest' :=
  append_inj_of_head? hWord hWord'
    (fun c hHead => not_not_intro (hEnd c hHead))
    (fun c hHead => not_not_intro (hEnd' c hHead)) hSame

------------------------------------------------------------
-- Words of Values
------------------------------------------------------------

namespace Value

/- The value is a number, or has a name. -/
inductive IsWord : Value → Prop where
| nil : IsWord .nil
| bool (b : Bool) : IsWord (.bool b)
| number (x : Float) :
    x.isNaN = false → IsWord (.number x)

theorem isWord_of_writable
    {value : Value}
    (hWritable : value.Writable)
    (hString : ∀ s, value ≠ .string s) :
    value.IsWord := by
  cases value with
  | nil => exact .nil
  | bool b => exact .bool b
  | number x =>
      rcases hWritable with ⟨w, _, rfl⟩
      exact .number _ (Double.isNaN_value w)
  | string s => exact absurd rfl (hString s)

theorem isNumberChar_of_mem_number
    {x : Float}
    (hNumber : x.isNaN = false)
    {c : Char}
    (hMem : c ∈ (number x).text.toList) :
    IsNumberChar c :=
  Double.isForm_layout.isNumberChar_of_mem_textWith hNumber
    hMem

theorem IsWord.isUnbroken
    {value : Value}
    (hWord : value.IsWord) :
    IsUnbroken value.text.toList := by
  cases hWord with
  | nil => exact List.all_iff_forall_prop.mp (by decide)
  | bool b =>
      cases b <;> exact List.all_iff_forall_prop.mp (by decide)
  | number x hNumber =>
      intro c hMem
      have hChar := isNumberChar_of_mem_number hNumber hMem
      rintro (rfl | rfl)
      · exact absurd hChar (by decide)
      · exact absurd hChar (by decide)

theorem IsWord.ne_paren
    {value : Value}
    (hWord : value.IsWord)
    (rest : List Char) :
    value.text.toList ≠ '(' :: rest := by
  intro hText
  cases hWord with
  | nil => exact absurd (List.cons.inj hText).1 (by decide)
  | bool b =>
      cases b <;>
        exact absurd (List.cons.inj hText).1 (by decide)
  | number x hNumber =>
      have hMem : '(' ∈ (Value.number x).text.toList := by
        rw [hText]
        exact List.mem_cons_self
      have hChar := isNumberChar_of_mem_number hNumber hMem
      exact absurd hChar (by decide)

/- The text of a number is that of no other value. -/
theorem eq_of_number_text_eq
    {x : Float}
    (hNumber : x.isNaN = false)
    {value : Value}
    (hWord : value.IsWord)
    (hSame : (number x).text = value.text) :
    number x = value := by
  cases hWord with
  | nil =>
      exact absurd hSame
        (Double.isForm_layout.textWith_ne hNumber (by decide))
  | bool b =>
      cases b <;>
        exact absurd hSame
          (Double.isForm_layout.textWith_ne hNumber (by decide))
  | number y hNumber' =>
      rw [Double.isForm_layout.textWith_injective hNumber
        hNumber' hSame]

/- The word determines the value. -/
theorem IsWord.eq_of_text_eq
    {value value' : Value}
    (hWord : value.IsWord)
    (hWord' : value'.IsWord)
    (hSame : value.text = value'.text) :
    value = value' := by
  have hBool (b : Bool) :
      (Value.bool b).text ≠ Value.nil.text := by
    cases b <;> decide
  cases hWord with
  | number x hNumber =>
      exact eq_of_number_text_eq hNumber hWord' hSame
  | nil =>
      cases hWord' with
      | number x hNumber =>
          exact (eq_of_number_text_eq hNumber .nil
            hSame.symm).symm
      | nil => rfl
      | bool b => exact absurd hSame.symm (hBool b)
  | bool b =>
      cases hWord' with
      | number x hNumber =>
          exact (eq_of_number_text_eq hNumber (.bool b)
            hSame.symm).symm
      | nil => exact absurd hSame (hBool b)
      | bool b' =>
          have hNames : ∀ b b' : Bool,
                (Value.bool b).text = (Value.bool b').text →
                  b = b' := by
            decide
          rw [hNames b b' hSame]

end Value

------------------------------------------------------------
-- Words of Operators
------------------------------------------------------------

/- The lexemes of operators are words, and none of ours. -/
theorem lexemes_of_operators :
    ∀ entry ∈ operatorLexemes,
      (entry.2.isUnary || entry.2.level?.isSome) = true →
        (entry.1.all fun c => ¬ IsSeparator c) = true ∧
          entry.1 ≠ "group".toList ∧ entry.1 ≠ "if".toList := by
  decide

namespace Token.IsUsual

variable {operator operator' : Token}

theorem isUnbroken
    (hUsual : operator.IsUsual)
    (hOperator : operator.isOperator = true) :
    IsUnbroken operator.lexeme.toList :=
  List.all_iff_forall_prop.mp
    (lexemes_of_operators _ hUsual.lexeme hOperator).1

/- The lexeme determines the operator, but for its line. -/
theorem offLine_eq
    (hUsual : operator.IsUsual)
    (hUsual' : operator'.IsUsual)
    (hSame : operator.lexeme.toList = operator'.lexeme.toList) :
    operator.offLine = operator'.offLine := by
  have hKinds : ∀ p ∈ operatorLexemes, ∀ q ∈ operatorLexemes,
      p.1 = q.1 → p.2 = q.2 := by
    decide
  have hKind := hKinds _ hUsual.lexeme _ hUsual'.lexeme hSame
  have hLiteral := hUsual.literal.trans hUsual'.literal.symm
  rcases operator with ⟨kind, lexeme, literal, line⟩
  rcases operator' with ⟨kind', lexeme', literal', line'⟩
  have hLexeme := String.toList_inj.mp hSame
  dsimp only at hKind hLiteral hLexeme
  rw [hKind, hLiteral, hLexeme]
  rfl

end Token.IsUsual

------------------------------------------------------------
-- The Front of a Tree
------------------------------------------------------------

namespace Expr

/- No literal of the tree is a string. -/
def Stringless : Expr → Prop
| .literal value => ∀ s, value ≠ .string s
| .grouping inner => inner.Stringless
| .unary _ right => right.Stringless
| .binary left _ right =>
    left.Stringless ∧ right.Stringless
| .conditional condition thenBranch elseBranch =>
    condition.Stringless ∧ thenBranch.Stringless ∧
      elseBranch.Stringless

/-
  The text of the tree is one to be read: values stand as
  words, and operators as their lexemes.
-/
def Legible : Expr → Prop
| .literal value => value.IsWord
| .grouping inner => inner.Legible
| .unary operator right =>
    (operator.IsUsual ∧ operator.isOperator = true) ∧
      right.Legible
| .binary left operator right =>
    (operator.IsUsual ∧ operator.isOperator = true) ∧
      left.Legible ∧ right.Legible
| .conditional condition thenBranch elseBranch =>
    condition.Legible ∧ thenBranch.Legible ∧
      elseBranch.Legible

/- What can be written, and has no strings, is legible. -/
theorem legible_of_writable
    {e : Expr}
    (hWritable : e.Writable)
    (hStringless : e.Stringless) :
    e.Legible := by
  induction e with
  | literal value =>
      exact Value.isWord_of_writable hWritable hStringless
  | grouping inner ih => exact ih hWritable hStringless
  | unary operator right ih =>
      rcases hWritable with ⟨hUsual, hOperator, hRight⟩
      exact ⟨⟨hUsual,
        Token.isOperator_of_mem_unaryOperators hOperator⟩,
        ih hRight hStringless⟩
  | binary left operator right ihLeft ihRight =>
      rcases hWritable with
        ⟨hUsual, ⟨_, hOperator⟩, hLeft, hRight⟩
      exact ⟨⟨hUsual,
        Token.isOperator_of_mem_operators hOperator⟩,
        ihLeft hLeft hStringless.1,
        ihRight hRight hStringless.2⟩
  | conditional condition thenBranch elseBranch
      ihCondition ihThen ihElse =>
      rcases hWritable with ⟨hCondition, hThen, hElse⟩
      exact ⟨ihCondition hCondition hStringless.1,
        ihThen hThen hStringless.2.1,
        ihElse hElse hStringless.2.2⟩

------------------------------------------------------------
-- The Front of a Text
------------------------------------------------------------

/- What a text can begin with. -/
inductive Head where
| literal
| grouping
| operator
| conditional
deriving DecidableEq, Repr

/- What the text of a tree begins with. -/
def head : Expr → Head
| .literal _ => .literal
| .grouping _ => .grouping
| .unary _ _ => .operator
| .binary _ _ _ => .operator
| .conditional _ _ _ => .conditional

/- The text of a tree before its first separator. -/
def opening : Expr → List Char
| .literal value => value.text.toList
| .grouping _ => '(' :: "group".toList
| .unary operator _ => '(' :: operator.lexeme.toList
| .binary _ operator _ => '(' :: operator.lexeme.toList
| .conditional _ _ _ => '(' :: "if".toList

/- The text of a tree from its first separator on. -/
def behind : Expr → List Char
| .literal _ => []
| .grouping inner => ' ' :: (inner.text.toList ++ [')'])
| .unary _ right => ' ' :: (right.text.toList ++ [')'])
| .binary left _ right =>
    ' ' :: (left.text.toList ++
      ' ' :: (right.text.toList ++ [')']))
| .conditional condition thenBranch elseBranch =>
    ' ' :: (condition.text.toList ++
      ' ' :: ("then ".toList ++ (thenBranch.text.toList ++
        ' ' :: ("else ".toList ++
          (elseBranch.text.toList ++ [')'])))))

theorem toList_text (e : Expr) :
    e.text.toList = e.opening ++ e.behind := by
  cases e <;>
    simp [text, opening, behind, String.toList_append]

/- What a text begins with, told by its opening. -/
def Head.ofOpening : List Char → Head
| '(' :: word =>
    if word = "group".toList then .grouping
    else if word = "if".toList then .conditional
    else .operator
| _ => .literal

/- The lexeme of an operator is no other word. -/
theorem Head.ofOpening_operator
    {operator : Token}
    (hUsual : operator.IsUsual)
    (hOperator : operator.isOperator = true) :
    ofOpening ('(' :: operator.lexeme.toList) =
      .operator := by
  have hLexeme :=
    lexemes_of_operators _ hUsual.lexeme hOperator
  rw [ofOpening, if_neg hLexeme.2.1, if_neg hLexeme.2.2]

/- The opening tells what the text begins with. -/
theorem Legible.head_eq
    {e : Expr}
    (h : e.Legible) :
    e.head = .ofOpening e.opening := by
  cases e with
  | literal value =>
      rw [head, opening]
      unfold Head.ofOpening
      split
      · rename_i word hText
        exact absurd hText (h.ne_paren word)
      · rfl
  | grouping inner => rfl
  | unary operator right =>
      exact (Head.ofOpening_operator h.1.1 h.1.2).symm
  | binary left operator right =>
      exact (Head.ofOpening_operator h.1.1 h.1.2).symm
  | conditional condition thenBranch elseBranch => rfl

theorem Legible.isUnbroken_opening
    {e : Expr}
    (h : e.Legible) :
    IsUnbroken e.opening := by
  have hParen : ¬ IsSeparator '(' := by decide
  have hGroup : IsUnbroken ('(' :: "group".toList) :=
    List.all_iff_forall_prop.mp (by decide)
  have hIf : IsUnbroken ('(' :: "if".toList) :=
    List.all_iff_forall_prop.mp (by decide)
  cases e with
  | literal value => exact h.isUnbroken
  | grouping inner => exact hGroup
  | unary operator right =>
      exact List.forall_mem_cons.mpr
        ⟨hParen, h.1.1.isUnbroken h.1.2⟩
  | binary left operator right =>
      exact List.forall_mem_cons.mpr
        ⟨hParen, h.1.1.isUnbroken h.1.2⟩
  | conditional condition thenBranch elseBranch => exact hIf

theorem endsWord_behind
    (e : Expr)
    {rest : List Char}
    (hEnd : EndsWord rest) :
    EndsWord (e.behind ++ rest) := by
  cases e with
  | literal value => exact hEnd
  | _ => exact endsWord_blank _

------------------------------------------------------------
-- Texts That Begin Alike
------------------------------------------------------------

/-
  Two trees have texts that begin alike, each up to a
  separator or up to the end.
-/
structure BeginAlike
    (e : Expr)
    (rest : List Char)
    (e' : Expr)
    (rest' : List Char) : Prop where
  legible : e.Legible
  legible' : e'.Legible
  ends : EndsWord rest
  ends' : EndsWord rest'
  same : e.text.toList ++ rest = e'.text.toList ++ rest'

/- Then they have the same front. -/
theorem BeginAlike.front_eq
    {e e' : Expr}
    {rest rest' : List Char}
    (h : BeginAlike e rest e' rest') :
    e.head = e'.head ∧ e.opening = e'.opening ∧
      e.behind ++ rest = e'.behind ++ rest' := by
  have hSame := h.same
  rw [toList_text, toList_text, List.append_assoc,
    List.append_assoc] at hSame
  rcases h.legible.isUnbroken_opening.append_inj
      h.legible'.isUnbroken_opening
      (e.endsWord_behind h.ends)
      (e'.endsWord_behind h.ends') hSame with
    ⟨hOpening, hBehind⟩
  refine ⟨?_, hOpening, hBehind⟩
  rw [h.legible.head_eq, hOpening, h.legible'.head_eq]

/-
  The text of a tree shows where it ends, and determines the
  tree but for its lines.
-/
def IsRead (e : Expr) : Prop :=
  ∀ {e' : Expr} {rest rest' : List Char},
    BeginAlike e rest e' rest' →
      e.offLine = e'.offLine ∧ rest = rest'

theorem isRead_literal (value : Value) :
    (literal value).IsRead := by
  intro e' rest rest' h
  rcases h.front_eq with ⟨hHead, hOpening, hBehind⟩
  cases e' with
  | literal value' =>
      have hWord : value.IsWord := h.legible
      have hValue := hWord.eq_of_text_eq h.legible'
        (String.toList_inj.mp hOpening)
      exact ⟨congrArg literal hValue, hBehind⟩
  | _ => exact nomatch hHead

theorem IsRead.grouping
    {inner : Expr}
    (hInner : inner.IsRead) :
    (grouping inner).IsRead := by
  intro e' rest rest' h
  rcases h.front_eq with ⟨hHead, _, hBehind⟩
  cases e' with
  | grouping inner' =>
      have hAlike : BeginAlike inner (')' :: rest)
          inner' (')' :: rest') :=
        ⟨h.legible, h.legible', endsWord_paren _,
          endsWord_paren _, by simpa [behind] using hBehind⟩
      rcases hInner hAlike with ⟨hTree, hRest⟩
      exact ⟨congrArg Expr.grouping hTree,
        (List.cons.inj hRest).2⟩
  | _ => exact nomatch hHead

/- A second operand stands behind a blank. -/
theorem IsRead.not_beginAlike
    {e e' : Expr}
    {rest rest' : List Char}
    (hRead : e.IsRead) :
    ¬ BeginAlike e (')' :: rest) e' (' ' :: rest') := by
  intro h
  exact absurd (List.cons.inj (hRead h).2).1 (by decide)

theorem IsRead.not_beginAlike'
    {e e' : Expr}
    {rest rest' : List Char}
    (hRead : e.IsRead) :
    ¬ BeginAlike e (' ' :: rest) e' (')' :: rest') := by
  intro h
  exact absurd (List.cons.inj (hRead h).2).1 (by decide)

theorem IsRead.unary
    {operator : Token}
    {right : Expr}
    (hRight : right.IsRead) :
    (unary operator right).IsRead := by
  intro e' rest rest' h
  rcases h.front_eq with ⟨hHead, hOpening, hBehind⟩
  rcases h.legible with ⟨hOperator, hLegible⟩
  cases e' with
  | unary operator' right' =>
      rcases h.legible' with ⟨hOperator', hLegible'⟩
      have hAlike : BeginAlike right (')' :: rest)
          right' (')' :: rest') :=
        ⟨hLegible, hLegible', endsWord_paren _,
          endsWord_paren _, by simpa [behind] using hBehind⟩
      rcases hRight hAlike with ⟨hTree, hRest⟩
      refine ⟨?_, (List.cons.inj hRest).2⟩
      show Expr.unary operator.offLine right.offLine =
        .unary operator'.offLine right'.offLine
      rw [hTree, hOperator.1.offLine_eq hOperator'.1
        (List.cons.inj hOpening).2]
  | binary left' operator' right' =>
      have hAlike : BeginAlike right (')' :: rest) left'
          (' ' :: (right'.text.toList ++ ')' :: rest')) :=
        ⟨hLegible, h.legible'.2.1, endsWord_paren _,
          endsWord_blank _, by simpa [behind] using hBehind⟩
      exact absurd hAlike hRight.not_beginAlike
  | _ => exact nomatch hHead

theorem IsRead.binary
    {left : Expr}
    {operator : Token}
    {right : Expr}
    (hLeft : left.IsRead)
    (hRight : right.IsRead) :
    (binary left operator right).IsRead := by
  intro e' rest rest' h
  rcases h.front_eq with ⟨hHead, hOpening, hBehind⟩
  rcases h.legible with ⟨hOperator, hLegible⟩
  cases e' with
  | unary operator' right' =>
      have hAlike : BeginAlike left
          (' ' :: (right.text.toList ++ ')' :: rest))
          right' (')' :: rest') :=
        ⟨hLegible.1, h.legible'.2, endsWord_blank _,
          endsWord_paren _, by simpa [behind] using hBehind⟩
      exact absurd hAlike hLeft.not_beginAlike'
  | binary left' operator' right' =>
      rcases h.legible' with ⟨hOperator', hLegible'⟩
      have hAlike : BeginAlike left
          (' ' :: (right.text.toList ++ ')' :: rest)) left'
          (' ' :: (right'.text.toList ++ ')' :: rest')) :=
        ⟨hLegible.1, hLegible'.1, endsWord_blank _,
          endsWord_blank _, by simpa [behind] using hBehind⟩
      rcases hLeft hAlike with ⟨hLeftTree, hText⟩
      rcases hRight ⟨hLegible.2, hLegible'.2,
          endsWord_paren _, endsWord_paren _,
          (List.cons.inj hText).2⟩ with
        ⟨hRightTree, hRest⟩
      refine ⟨?_, (List.cons.inj hRest).2⟩
      show Expr.binary left.offLine operator.offLine
          right.offLine =
        .binary left'.offLine operator'.offLine right'.offLine
      rw [hLeftTree, hRightTree,
        hOperator.1.offLine_eq hOperator'.1
          (List.cons.inj hOpening).2]
  | _ => exact nomatch hHead

theorem IsRead.conditional
    {condition thenBranch elseBranch : Expr}
    (hCondition : condition.IsRead)
    (hThen : thenBranch.IsRead)
    (hElse : elseBranch.IsRead) :
    (conditional condition thenBranch elseBranch).IsRead := by
  intro e' rest rest' h
  rcases h.front_eq with ⟨hHead, _, hBehind⟩
  rcases h.legible with ⟨hLegible₁, hLegible₂, hLegible₃⟩
  cases e' with
  | conditional condition' thenBranch' elseBranch' =>
      rcases h.legible' with
        ⟨hLegible₁', hLegible₂', hLegible₃'⟩
      have hAlike : BeginAlike condition
          (' ' :: ("then ".toList ++
            (thenBranch.text.toList ++
              ' ' :: ("else ".toList ++
                (elseBranch.text.toList ++ ')' :: rest)))))
          condition'
          (' ' :: ("then ".toList ++
            (thenBranch'.text.toList ++
              ' ' :: ("else ".toList ++
                (elseBranch'.text.toList ++
                  ')' :: rest'))))) :=
        ⟨hLegible₁, hLegible₁', endsWord_blank _,
          endsWord_blank _, by simpa [behind] using hBehind⟩
      rcases hCondition hAlike with ⟨hTree₁, hText⟩
      rcases hThen ⟨hLegible₂, hLegible₂',
          endsWord_blank _, endsWord_blank _,
          List.append_cancel_left (List.cons.inj hText).2⟩
        with ⟨hTree₂, hText⟩
      rcases hElse ⟨hLegible₃, hLegible₃',
          endsWord_paren _, endsWord_paren _,
          List.append_cancel_left (List.cons.inj hText).2⟩
        with ⟨hTree₃, hRest⟩
      refine ⟨?_, (List.cons.inj hRest).2⟩
      show Expr.conditional condition.offLine
          thenBranch.offLine elseBranch.offLine =
        .conditional condition'.offLine
          thenBranch'.offLine elseBranch'.offLine
      rw [hTree₁, hTree₂, hTree₃]
  | _ => exact nomatch hHead

/- Every text of a tree can be read in one way only. -/
theorem isRead (e : Expr) : e.IsRead := by
  induction e with
  | literal value => exact isRead_literal value
  | grouping inner ih => exact ih.grouping
  | unary operator right ih => exact ih.unary
  | binary left operator right ihLeft ihRight =>
      exact ihLeft.binary ihRight
  | conditional condition thenBranch elseBranch
      ihCondition ihThen ihElse =>
      exact ihCondition.conditional ihThen ihElse

/- Legible trees with the same text differ in lines only. -/
theorem Legible.offLine_eq
    {e e' : Expr}
    (hLegible : e.Legible)
    (hLegible' : e'.Legible)
    (hSame : e.text = e'.text) :
    e.offLine = e'.offLine := by
  have hEnd : EndsWord [] := fun _ hHead => nomatch hHead
  have hAlike : BeginAlike e [] e' [] :=
    ⟨hLegible, hLegible', hEnd, hEnd, by rw [hSame]⟩
  exact (e.isRead hAlike).1

end Expr

/-
  The texts of trees are unambiguous.  Wherever two cursors
  are among the tokens of their sources, the trees that they
  give, if they hold no strings, have the same text only if
  they are the same but for the lines of their operators.
-/
theorem tree_text_unambiguous
    (source source' : String)
    (moves moves' : List Cursor.Move)
    (tree tree' : Expr)
    (hTree :
      ((Cursor.ofTokens (scan source).tokens).run
        moves).parse.1 = some tree)
    (hTree' :
      ((Cursor.ofTokens (scan source').tokens).run
        moves').parse.1 = some tree')
    (hStringless : tree.Stringless)
    (hStringless' : tree'.Stringless)
    (hSame : tree.text = tree'.text) :
    tree.offLine = tree'.offLine := by
  have hWritable := Cursor.writable_of_parse
    ((Cursor.isOver_ofTokens (scan source).tokens).run moves)
    hTree
  have hWritable' := Cursor.writable_of_parse
    ((Cursor.isOver_ofTokens (scan source').tokens).run moves')
    hTree'
  exact (Expr.legible_of_writable hWritable
    hStringless).offLine_eq
      (Expr.legible_of_writable hWritable' hStringless') hSame

/- A negated `nil` on two different lines has one text. -/
theorem tree_text_unambiguous_minus_nil :
    let tree (line : Nat) : Expr :=
      .unary ⟨.minus, "-", none, line⟩ (.literal .nil)
    ((Cursor.ofTokens (scan "-nil").tokens).run
        []).parse.1 = some (tree 1) ∧
      ((Cursor.ofTokens (scan "\n-nil").tokens).run
        []).parse.1 = some (tree 2) ∧
      (tree 1).Stringless ∧ (tree 2).Stringless ∧
      (tree 1).text = (tree 2).text ∧
      (tree 1).offLine = (tree 2).offLine := by
  intro tree
  let word (line : Nat) : List Token :=
    [⟨.minus, "-", none, line⟩, ⟨.kwNil, "nil", none, line⟩]
  have hMinus : Kind.minus ∈ unaryOperators := by decide
  have hDerives (line : Nat) :
      Derives .expression (word line) (tree line) :=
    .expression (.condition (.operand (.operand (.operand
      (.operand (.unary hMinus (.primary (.literal rfl))))))))
  let feed : Segment := ⟨'\n', [], .layout⟩
  have hCuts : Cuts "-nil".toList _ [] :=
    scans_minus_nil.cut [] (by simp [Closes])
  have hCuts' : Cuts "\n-nil".toList (feed :: _) [] :=
    .next (.blank (by decide)) hCuts
  have hFaultless := List.forall_mem_cons.mpr
    ⟨(by simp [Segment.IsFaultless] : feed.IsFaultless),
      scans_minus_nil.faultless⟩
  have hScan : scan "-nil" =
      ⟨word 1 ++ [Token.endOfInput 1], []⟩ :=
    scan_of_cuts hCuts scans_minus_nil.faultless
  have hScan' : scan "\n-nil" =
      ⟨word 2 ++ [Token.endOfInput 2], []⟩ :=
    scan_of_cuts hCuts' hFaultless
  have hTree :
      ((Cursor.ofTokens (scan "-nil").tokens).run
        []).parse.1 = some (tree 1) := by
    rw [hScan]
    exact congrArg Prod.fst (parse_of_derives (hDerives 1) 1)
  have hTree' :
      ((Cursor.ofTokens (scan "\n-nil").tokens).run
        []).parse.1 = some (tree 2) := by
    rw [hScan']
    exact congrArg Prod.fst (parse_of_derives (hDerives 2) 2)
  have hStringless (line : Nat) : (tree line).Stringless := by
    intro s hValue
    cases hValue
  exact ⟨hTree, hTree', hStringless 1, hStringless 2, rfl,
    tree_text_unambiguous _ _ [] [] _ _ hTree hTree'
      (hStringless 1) (hStringless 2) rfl⟩

end LoxExpr
