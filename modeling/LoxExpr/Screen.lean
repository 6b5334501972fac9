import LoxExpr.Program

/-
  This file defines what is printed: the text on standard
  output and the text on standard error.

  Key definitions include:
    * `Screen`
    * `Screen.append`
    * `Verdict.screen`
-/

namespace LoxExpr

------------------------------------------------------------
-- Printed Text
------------------------------------------------------------

/- The texts printed on the two outputs. -/
structure Screen where
  out : String
  err : String
deriving DecidableEq, Repr

namespace Screen

/- Nothing is printed. -/
def blank : Screen := ⟨"", ""⟩

/- Print on standard output. -/
def ofOut (text : String) : Screen := ⟨text, ""⟩

/- Print on standard error. -/
def ofErr (text : String) : Screen := ⟨"", text⟩

/- One text after the other, on each output by itself. -/
def append (a b : Screen) : Screen :=
  ⟨a.out ++ b.out, a.err ++ b.err⟩

instance : Append Screen := ⟨append⟩

@[simp] theorem out_append (a b : Screen) :
    (a ++ b).out = a.out ++ b.out := rfl

@[simp] theorem err_append (a b : Screen) :
    (a ++ b).err = a.err ++ b.err := rfl

end Screen

/- Texts, each on a line of its own. -/
def unlines (texts : List String) : String :=
  String.join (texts.map fun text => text ++ "\n")

------------------------------------------------------------
-- Printed Verdicts
------------------------------------------------------------

/-
  The message of a failure.  Static errors have been printed
  one by one and need none.
-/
def Failure.screen : Failure → Screen
| .staticErrors _ => .blank
| failure => .ofErr (unlines [failure.message])

/- The reports, and then the result or the failure. -/
def Verdict.screen
    {α : Type}
    (lines : α → List String)
    (v : Verdict α) : Screen :=
  .ofErr (unlines (v.diagnostics.map Diagnostic.text)) ++
    match v.result with
    | .ok value => .ofOut (unlines (lines value))
    | .error failure => failure.screen

/- The exit code of a program that ends with a verdict. -/
def Verdict.exitCode
    {α : Type}
    (v : Verdict α) : Nat :=
  match v.result with
  | .ok _ => 0
  | .error failure => failure.exitCode

end LoxExpr
