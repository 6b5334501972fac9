import LoxExpr.Proofs.Session.OneLine

/-
  This file says what a session prints for an input of many
  lines: one after the other, what each line prints when it
  is the only one, up to a line of blanks.

  Main statements:
    * `Session.converse_of_turn`
    * `Session.converse_of_cutLines`
    * `Session.prints_line_by_line`
-/

namespace LoxExpr

namespace Session

------------------------------------------------------------
-- Steps
------------------------------------------------------------

/- A conversation is a turn, and the conversation behind. -/
theorem converse_of_turn
    {s next : Session}
    {a : Answer}
    (hTurn : s.turn = (a, next)) :
    s.converse =
      if a.goesOn then
        (prompt ++ a.screen ++ next.converse.1,
          next.converse.2)
      else
        (prompt ++ a.screen, next) := by
  rw [converse]
  split
  rename_i a' next' hTurn'
  rw [hTurn] at hTurn'
  cases hTurn'
  split <;> rfl

/- At the end of the input, the session ends. -/
theorem converse_nil (buffer : String) :
    converse ⟨buffer, []⟩ =
      (prompt ++ farewell, ⟨"", []⟩) :=
  converse_of_turn (turn_nil buffer)

/-
  For the first of the lines, the session prints what that
  line prints alone.  It ends there if the line is one of
  blanks, and goes on with the lines behind if not.
-/
theorem converse_cons
    {s : Session}
    {line : List UInt8}
    {lines : List (List UInt8)}
    (hLines : cutLines s.unread = line :: lines) :
    ∃ next : Session, cutLines next.unread = lines ∧
      next.unread = lines.flatten ∧
      s.converse =
        if leaves line then
          (prompt, next)
        else
          (lineScreen line ++ next.converse.1,
            next.converse.2) := by
  rcases s with ⟨buffer, unread⟩
  have hLine : IsLine line := by
    apply isLine_of_mem_cutLines
    rw [hLines]
    exact List.mem_cons_self
  cases unread with
  | nil => exact nomatch hLines
  | cons byte rest =>
      rcases hSplit : splitLine (byte :: rest) with
        ⟨first, behind⟩
      rw [cutLines_cons, hSplit] at hLines
      dsimp only at hLines
      rcases List.cons.inj hLines with ⟨rfl, rfl⟩
      have hAnswer := turn_eq_lineAnswer hSplit buffer
      have hUnread := (turn_of_splitLine hSplit buffer).1
      rcases hTurn : turn ⟨buffer, byte :: rest⟩ with
        ⟨a, next⟩
      rw [hTurn] at hAnswer hUnread
      dsimp only at hAnswer hUnread
      refine ⟨next, by rw [hUnread], ?_, ?_⟩
      · rw [hUnread, flatten_cutLines]
      · rw [converse_of_turn hTurn, hAnswer,
          goesOn_lineAnswer hLine]
        cases hLeaves : leaves first with
        | false => rfl
        | true =>
            exact congrArg (fun shown => (shown, next))
              (lineScreen_of_leaves hLine hLeaves)

------------------------------------------------------------
-- Conversations
------------------------------------------------------------

/-
  A session prints what the lines before the first one of
  blanks print alone.  Then there is one more prompt, with
  the farewell if no line is left, and the lines behind stay
  unread.
-/
theorem converse_of_cutLines
    {s : Session}
    {lines : List (List UInt8)}
    (hLines : cutLines s.unread = lines) :
    let front := lines.takeWhile fun line => !leaves line
    let behind := lines.dropWhile fun line => !leaves line
    s.converse.1.out =
      String.join
          (front.map fun line => (lineScreen line).out) ++
        (if behind.isEmpty then
          "> \nExited plox repl\n"
        else "> ") ∧
    s.converse.1.err =
      String.join
        (front.map fun line => (lineScreen line).err) ∧
    s.converse.2.unread = behind.tail.flatten := by
  induction lines generalizing s with
  | nil =>
      rcases s with ⟨buffer, unread⟩
      have hUnread := flatten_cutLines unread
      rw [hLines] at hUnread
      subst hUnread
      rw [List.flatten_nil, converse_nil]
      exact ⟨rfl, rfl, rfl⟩
  | cons line lines ih =>
      rcases converse_cons hLines with
        ⟨next, hNext, hUnread, hConverse⟩
      rw [hConverse]
      cases hLeaves : leaves line with
      | true =>
          simp [hLeaves, hUnread, prompt, Screen.ofOut]
      | false =>
          rcases ih hNext with ⟨hOut, hErr, hLeft⟩
          simp [hLeaves, hOut, hErr, hLeft,
            String.append_assoc]

/-
  The input of a session is cut behind its line feeds.  What
  is printed for each line is told by that line alone: the
  prompt, and then that it is no text, or what running its
  text gives, with one as the number of its line.  Whatever
  the buffer holds, the session prints this for the lines in
  order, before the first text of blanks.  At that text it
  prints the prompt and ends, and the bytes behind stay
  unread; without such a text it ends with the farewell.
-/
theorem prints_line_by_line (s : Session) :
    let lines := cutLines s.unread
    let front := lines.takeWhile fun line => !leaves line
    let behind := lines.dropWhile fun line => !leaves line
    (lines.flatten = s.unread ∧
      (∀ line ∈ lines,
        line ≠ [] ∧ lineFeed ∉ line.dropLast) ∧
      ∀ line ∈ lines.dropLast,
        line.getLast? = some lineFeed) ∧
    (∀ line ∈ lines,
      Shows line (lineScreen line) ∧
      (leaves line = true ↔
        ∃ text, decodeText? line = some text ∧
          Text.trim text = "")) ∧
    s.converse.1.out =
      String.join
          (front.map fun line => (lineScreen line).out) ++
        (if behind.isEmpty then
          "> \nExited plox repl\n"
        else "> ") ∧
    s.converse.1.err =
      String.join
        (front.map fun line => (lineScreen line).err) ∧
    s.converse.2.unread = behind.tail.flatten := by
  intro lines front behind
  refine ⟨⟨flatten_cutLines _, ?_, ?_⟩, ?_,
    converse_of_cutLines rfl⟩
  · intro line hMem
    have hLine := isLine_of_mem_cutLines hMem
    exact ⟨hLine.nonempty, hLine.inside⟩
  · intro line hMem
    exact getLast?_of_mem_dropLast hMem
  · intro line hMem
    exact ⟨shows_lineScreen (isLine_of_mem_cutLines hMem),
      leaves_iff line⟩

end Session

end LoxExpr
