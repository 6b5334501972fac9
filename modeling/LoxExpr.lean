import LoxExpr.Main
import LoxExpr.Proofs.Grammar.Derivation
import LoxExpr.Proofs.Grammar.Lookahead
import LoxExpr.Sink
import LoxExpr.Proofs.Grammar.Acceptance
import LoxExpr.Proofs.Grammar.Language
import LoxExpr.Proofs.Lexical.Lossless
import LoxExpr.Proofs.Lexical.First
import LoxExpr.Proofs.Lexical.Placed
import LoxExpr.Proofs.Lexical.Cut
import LoxExpr.Proofs.Grammar.Climb
import LoxExpr.Proofs.Grammar.Mending
import LoxExpr.Proofs.Grammar.Recovery
import LoxExpr.Proofs.Grammar.Repair
import LoxExpr.Proofs.Lexical.Follow
import LoxExpr.Proofs.Lexical.Listing
import LoxExpr.Proofs.RoundTrip.Rendering
import LoxExpr.Proofs.RoundTrip.Rescan
import LoxExpr.Proofs.RoundTrip.Rerun
import LoxExpr.Proofs.Grammar.Accounting
import LoxExpr.Proofs.Program.Verdicts
import LoxExpr.Proofs.Grammar.Runs
import LoxExpr.Proofs.Evaluation.Rejections
import LoxExpr.Proofs.Lexical.Lines
import LoxExpr.Proofs.Program.RuntimeErrors
import LoxExpr.Proofs.Layout.Agreement
import LoxExpr.Proofs.Program.Sinks
import LoxExpr.Proofs.Program.FrontEnds
import LoxExpr.Proofs.Grammar.Suffixes
import LoxExpr.Proofs.Program.ReportLines
import LoxExpr.Proofs.Session.Lines
import LoxExpr.Proofs.Session.Transcript
import LoxExpr.Proofs.Evaluation.FirstFailure
import LoxExpr.Proofs.Evaluation.Unevaluated
import LoxExpr.Proofs.Grammar.Ahead
import LoxExpr.Proofs.Grammar.Traces
import LoxExpr.Proofs.Grammar.Tracing
import LoxExpr.Proofs.Grammar.Locality
import LoxExpr.Proofs.Grammar.ErrorOrder
import LoxExpr.Proofs.Lexical.TokenOrder
import LoxExpr.Proofs.Program.ErrorLines
import LoxExpr.Proofs.Grammar.Viable
import LoxExpr.Proofs.Grammar.Earliest
import LoxExpr.Proofs.Grammar.Standstill
import LoxExpr.Proofs.Grammar.RecoveryPoints
import LoxExpr.Proofs.Lexical.LineNumbers
import LoxExpr.Proofs.Layout.Joining
import LoxExpr.Proofs.Layout.Lexemes
import LoxExpr.Proofs.Layout.Cleaning
import LoxExpr.Proofs.Number.Bits
import LoxExpr.Proofs.Number.Rounding
import LoxExpr.Proofs.Number.Layouts
import LoxExpr.Proofs.Number.Texts
import LoxExpr.Proofs.Text.Escapes
import LoxExpr.Proofs.Lexical.Decoding
import LoxExpr.Proofs.RoundTrip.Writable
import LoxExpr.Proofs.RoundTrip.TreeText
import LoxExpr.Proofs.Number.Sizes
import LoxExpr.Proofs.RoundTrip.Printed
