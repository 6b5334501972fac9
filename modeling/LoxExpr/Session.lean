import LoxExpr.Bytes
import LoxExpr.Screen
import LoxExpr.Text.Blank

/-
  This file defines interactive sessions.  A line is read
  into a buffer that is used again for every line, and then
  answered; no error ends the session.

  Key definitions include:
    * `Session`
    * `Session.readLine`
    * `Session.Answer`
    * `Session.turn`
    * `Session.converse`
-/

namespace LoxExpr

------------------------------------------------------------
-- Input
------------------------------------------------------------

/- The text read last, and the bytes that are not yet read. -/
structure Session where
  buffer : String
  unread : List UInt8

namespace Session

/- The session before some input. -/
def start (input : List UInt8) : Session :=
  ⟨"", input⟩

/- Forget the text read last. -/
def clear (s : Session) : Session :=
  { s with buffer := "" }

/-
  Read one line, and put its text behind the one that is in
  the buffer.  The number of its bytes is given, which is
  zero only at the end of the input.  A line that is no text
  is passed, and the buffer stays as it is.
-/
def readLine (s : Session) : Except String Nat × Session :=
  let (line, behind) := splitLine s.unread
  match decodeText? line with
  | some text => (.ok line.length, ⟨s.buffer ++ text, behind⟩)
  | none => (.error notTextMessage, ⟨s.buffer, behind⟩)

------------------------------------------------------------
-- Answers
------------------------------------------------------------

/-
  How a reading is answered: the input is at its end, the
  line is no text, the session is left, or a source has been
  run.
-/
inductive Answer where
| atEnd
| notText (message : String)
| leave
| ran : Verdict String → Answer

/- The answer to a text.  Blanks around it do not count. -/
def answerText (text : String) : Answer :=
  let source := Text.trim text
  if source.isEmpty then .leave
  else .ran (Program.run source)

/- The answer to a reading that left a text in the buffer. -/
def answer
    (reading : Except String Nat)
    (buffer : String) : Answer :=
  match reading with
  | .ok 0 => .atEnd
  | .ok (_ + 1) => answerText buffer
  | .error message => .notText message

/- What is printed when there is no line left. -/
def farewell : Screen := .ofOut "\nExited plox repl\n"

/- What an answer prints. -/
def Answer.screen : Answer → Screen
| .atEnd => farewell
| .notText message =>
    .ofErr (unlines ["Failed read line: " ++ message])
| .leave => .blank
| .ran verdict => verdict.screen fun value => [value]

/- The session goes on after an answer. -/
def Answer.goesOn : Answer → Bool
| .atEnd | .leave => false
| .notText _ | .ran _ => true

------------------------------------------------------------
-- Conversations
------------------------------------------------------------

/- The prompt before each reading. -/
def prompt : Screen := .ofOut "> "

/- Answer one more line. -/
def turn (s : Session) : Answer × Session :=
  let (reading, next) := s.clear.readLine
  (answer reading next.buffer, next)

/- A turn after which the session goes on has read bytes. -/
theorem length_unread_lt
    {s next : Session}
    {a : Answer}
    (hTurn : s.turn = (a, next))
    (hGoesOn : a.goesOn = true) :
    next.unread.length < s.unread.length := by
  rcases s with ⟨buffer, unread⟩
  cases unread with
  | nil =>
      have hEnd : a = .atEnd := by
        have hAnswer := congrArg Prod.fst hTurn
        simp only [turn, readLine, clear, splitLine,
          decodeText?_nil] at hAnswer
        exact hAnswer.symm
      rw [hEnd] at hGoesOn
      exact nomatch hGoesOn
  | cons byte rest =>
      have hRest :
          next.unread = (splitLine (byte :: rest)).2 := by
        have hNext := (congrArg Prod.snd hTurn).symm
        dsimp only at hNext
        rw [hNext]
        simp only [turn, readLine, clear]
        split <;> rfl
      rw [hRest]
      exact Nat.lt_succ_of_le
        (length_behind_splitLine_le byte rest)

/-
  Answer lines until the session is left: what is printed,
  and the session as it is then.
-/
def converse (s : Session) : Screen × Session :=
  match hTurn : s.turn with
  | (a, next) =>
      let shown := prompt ++ a.screen
      if hGoesOn : a.goesOn = true then
        have := length_unread_lt hTurn hGoesOn
        let (more, last) := next.converse
        (shown ++ more, last)
      else
        (shown, next)
termination_by s.unread.length

/- What a session prints for all its input. -/
def screen (input : List UInt8) : Screen :=
  (start input).converse.1

end Session

end LoxExpr
