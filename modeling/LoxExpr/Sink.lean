import LoxExpr.Program

/-
  This file defines the sink that collects reports until it
  is cleared, and the stages that report to a sink while they
  run.

  A stage is handed the sink and hands it on.  It adds its
  reports one by one, at the time when it finds them.

  Key definitions include:
    * `Sink`
    * `Sink.scanFrom`
    * `Cursor.parseInto`
    * `Sink.Step`
    * `Sink.perform`
    * `Sink.replies`
-/

namespace LoxExpr

------------------------------------------------------------
-- Sinks
------------------------------------------------------------

/- The reports so far, in order. -/
structure Sink where
  reported : List Diagnostic

namespace Sink

/- The sink at the start. -/
def empty : Sink := ⟨[]⟩

/- The number of reports. -/
def size (s : Sink) : Nat := s.reported.length

/- Nothing has been reported. -/
def isEmpty (s : Sink) : Bool := s.reported.isEmpty

/- An error has been reported. -/
def hadError (s : Sink) : Bool := !s.reported.isEmpty

/- Record a report. -/
def report (s : Sink) (diagnostic : Diagnostic) : Sink :=
  ⟨s.reported ++ [diagnostic]⟩

/- Report an error that is not tied to a token. -/
def error
    (s : Sink)
    (line : Nat)
    (message : String) : Sink :=
  s.report (.atLine line message)

/- Report an error at a token. -/
def tokenError
    (s : Sink)
    (token : Token)
    (message : String) : Sink :=
  s.report (.atToken token message)

/- Forget all reports. -/
def clear (s : Sink) : Sink :=
  { s with reported := [] }

------------------------------------------------------------
-- Scanning into a Sink
------------------------------------------------------------

/- Report an error, if there is one. -/
def note (s : Sink) : Option LexicalError → Sink
| some e => s.error e.line e.message
| none => s

/-
  Scan what is left of a source, which begins on a given
  line.  The next segment is cut, and its token is put out or
  its error reported, before anything behind it is seen.
-/
def scanFrom
    (s : Sink)
    (line : Nat) : List Char → List Token × Sink
| [] => ([Token.endOfInput line], s)
| c :: rest =>
    let next := Segment.first c rest
    let reached := Segment.lineThrough line c rest
    let noted := s.note (next.errorOn? reached)
    let (tokens, last) :=
      noted.scanFrom reached (rest.drop next.tail.length)
    ((next.tokenOn? line).toList ++ tokens, last)
termination_by source => source.length
decreasing_by
  simp only [List.length_drop, List.length_cons]
  omega

/- Scan a source. -/
def scan
    (s : Sink)
    (source : String) : List Token × Sink :=
  s.scanFrom 1 source.toList

end Sink

------------------------------------------------------------
-- Reading into a Sink
------------------------------------------------------------

/-
  Read one expression, then report every error so far at its
  token.  Whether there is a tree, the cursor's own errors
  decide.
-/
def Cursor.parseInto
    (c : Cursor)
    (s : Sink) : (Option Expr × Cursor) × Sink :=
  let (tree, next) := c.parse
  let noted := next.errors.foldl
    (fun s e => s.tokenError e.token e.message) s
  ((tree, next), noted)

/- Scan a source, and read an expression from its start. -/
def Sink.analyze
    (s : Sink)
    (source : String) : Option Expr × Sink :=
  let (tokens, scanned) := s.scan source
  let ((tree, _), last) :=
    (Cursor.ofTokens tokens).parseInto scanned
  (tree, last)

------------------------------------------------------------
-- Steps
------------------------------------------------------------

namespace Sink

/- What can be done with a sink. -/
inductive Step where
| report (diagnostic : Diagnostic)
| error (line : Nat) (message : String)
| tokenError (token : Token) (message : String)
| clear
| scan (source : String)
| parse (source : String)

/- What a step gives besides its reports. -/
inductive Product where
| nothing
| tokens : List Token → Product
| tree : Option Expr → Product

/- The product of a step, and the sink after it. -/
def perform (s : Sink) : Step → Product × Sink
| .report diagnostic => (.nothing, s.report diagnostic)
| .error line message => (.nothing, s.error line message)
| .tokenError token message =>
    (.nothing, s.tokenError token message)
| .clear => (.nothing, s.clear)
| .scan source =>
    let (tokens, next) := s.scan source
    (.tokens tokens, next)
| .parse source =>
    let (tree, next) := s.analyze source
    (.tree tree, next)

/- The sink after steps in order. -/
def run (s : Sink) (steps : List Step) : Sink :=
  steps.foldl (fun s step => (s.perform step).2) s

/- The product of each step, and the sink after it. -/
def replies (s : Sink) : List Step → List (Product × Sink)
| [] => []
| step :: rest =>
    let reply := s.perform step
    reply :: reply.2.replies rest

end Sink

end LoxExpr
