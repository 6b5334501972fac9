import LoxExpr.Failure
import LoxExpr.Grammar.Cursor
import LoxExpr.Lexical.Scan

/-
  This file takes a source through all stages: to tokens, to
  a tree, and to the text of its value.

  Reports of the scan come before those of the grammar.  A
  single report is enough to fail, and nothing is evaluated
  then.

  Key definitions include:
    * `Analysis`
    * `analyze`
    * `Verdict`
    * `Program.tokenize`
    * `Program.parse`
    * `Program.run`
-/

namespace LoxExpr

------------------------------------------------------------
-- Analysis
------------------------------------------------------------

/- The tree of a source, if any, and all reports. -/
structure Analysis where
  tree : Option Expr
  diagnostics : List Diagnostic

/-
  Scan a source and read an expression from its start.  A
  lexical error alone does not keep the tree back.
-/
def analyze (source : String) : Analysis :=
  let s := scan source
  let (tree, cursor) := (Cursor.ofTokens s.tokens).parse
  ⟨tree, s.diagnostics ++ cursor.diagnostics⟩

------------------------------------------------------------
-- Verdicts
------------------------------------------------------------

/- What a stage reports, and its result or failure. -/
structure Verdict (α : Type) where
  diagnostics : List Diagnostic
  result : Except Failure α

/- A result holds only if there are no reports. -/
def Verdict.ofReports
    {α : Type}
    (diagnostics : List Diagnostic)
    (result : Except Failure α) : Verdict α :=
  if diagnostics.isEmpty then
    ⟨[], result⟩
  else
    ⟨diagnostics,
      .error (.staticErrors diagnostics.length)⟩

------------------------------------------------------------
-- Programs
------------------------------------------------------------

namespace Program

/- The tokens of a source. -/
def tokenize (source : String) : Verdict (List Token) :=
  let s := scan source
  .ofReports s.diagnostics (.ok s.tokens)

/- The result for a tree that should be there. -/
def treeResult : Option Expr → Except Failure Expr
| some tree => .ok tree
| none =>
    .error (.internal
      ["Parser returned no tree without reporting an error"])

/- The tree of a source. -/
def parse (source : String) : Verdict Expr :=
  let a := analyze source
  .ofReports a.diagnostics (treeResult a.tree)

/- The text of the value of a tree. -/
def valueText (tree : Expr) : Except Failure String :=
  tree.interpret.mapError .runtime

/- The text of the value of a source. -/
def run (source : String) : Verdict String :=
  let v := parse source
  ⟨v.diagnostics, v.result.bind valueText⟩

end Program

end LoxExpr
