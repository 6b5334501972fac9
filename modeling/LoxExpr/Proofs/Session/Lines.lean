import LoxExpr.Bytes
import LoxExpr.Text.Blank
import Mathlib.Data.List.DropRight

/-
  This file cuts an input into its lines, and says that the
  text of a line has no line feed in it once the blanks at
  its ends are gone.

  Key definitions include:
    * `cutLines`
    * `IsLine`

  Main statements:
    * `flatten_cutLines`
    * `isLine_of_mem_cutLines`
    * `IsLine.not_mem_trim`
-/

namespace LoxExpr

------------------------------------------------------------
-- Lines
------------------------------------------------------------

/- The lines of an input, each with its line feed. -/
def cutLines : List UInt8 → List (List UInt8)
| [] => []
| byte :: rest =>
    if byte = lineFeed then
      [byte] :: cutLines rest
    else
      match cutLines rest with
      | [] => [[byte]]
      | line :: lines => (byte :: line) :: lines

/- Only the last byte of a line can be a line feed. -/
structure IsLine (line : List UInt8) : Prop where
  nonempty : line ≠ []
  inside : lineFeed ∉ line.dropLast

/- The lines joined are the input. -/
theorem flatten_cutLines (input : List UInt8) :
    (cutLines input).flatten = input := by
  fun_induction cutLines input with
  | case1 => rfl
  | case2 rest ih => rw [List.flatten_cons, ih]; rfl
  | case3 byte rest _ hNone ih =>
      rw [hNone] at ih
      rw [← ih]
      rfl
  | case4 byte rest _ line lines hSome ih =>
      rw [hSome] at ih
      rw [← ih]
      rfl

example :
    cutLines [49, 10, 10, 255, 10, 50] =
      [[49, 10], [10], [255, 10], [50]] := by
  decide

/- Every line is one. -/
theorem isLine_of_mem_cutLines
    {input line : List UInt8}
    (hMem : line ∈ cutLines input) :
    IsLine line := by
  fun_induction cutLines input generalizing line with
  | case1 => exact nomatch hMem
  | case2 rest ih =>
      rcases List.mem_cons.mp hMem with rfl | hMore
      · exact ⟨List.cons_ne_nil _ _, List.not_mem_nil⟩
      · exact ih hMore
  | case3 byte rest _ _ _ =>
      rw [List.mem_singleton.mp hMem]
      exact ⟨List.cons_ne_nil _ _, List.not_mem_nil⟩
  | case4 byte rest hByte front lines hSome ih =>
      rw [hSome] at ih
      rcases List.mem_cons.mp hMem with rfl | hMore
      · have hFront := ih List.mem_cons_self
        refine ⟨List.cons_ne_nil _ _, ?_⟩
        rw [List.dropLast_cons_of_ne_nil hFront.nonempty]
        exact List.not_mem_cons_of_ne_of_not_mem
          (Ne.symm hByte) hFront.inside
      · exact ih (List.mem_cons_of_mem _ hMore)

/- Only the last line can lack a line feed. -/
theorem getLast?_of_mem_dropLast
    {input line : List UInt8}
    (hMem : line ∈ (cutLines input).dropLast) :
    line.getLast? = some lineFeed := by
  fun_induction cutLines input generalizing line with
  | case1 => exact nomatch hMem
  | case2 rest ih =>
      rcases hRest : cutLines rest with _ | ⟨next, lines⟩
      · rw [hRest] at hMem
        exact nomatch hMem
      · rw [hRest, List.dropLast_cons_cons] at hMem
        rw [hRest] at ih
        rcases List.mem_cons.mp hMem with rfl | hMore
        · rfl
        · exact ih hMore
  | case3 byte rest _ _ _ => exact nomatch hMem
  | case4 byte rest _ front lines hSome ih =>
      rw [hSome] at ih
      rcases lines with _ | ⟨next, lines⟩
      · exact nomatch hMem
      · rw [List.dropLast_cons_cons] at hMem ih
        rcases List.mem_cons.mp hMem with rfl | hMore
        · have hFront := ih List.mem_cons_self
          rw [List.getLast?_cons, hFront]
          rfl
        · exact ih (List.mem_cons_of_mem _ hMore)

/- The first line is split off, and then the others. -/
theorem cutLines_cons
    (byte : UInt8)
    (rest : List UInt8) :
    cutLines (byte :: rest) =
      (splitLine (byte :: rest)).1 ::
        cutLines (splitLine (byte :: rest)).2 := by
  induction rest generalizing byte with
  | nil =>
      unfold cutLines splitLine
      split <;> rfl
  | cons next rest ih =>
      rw [cutLines, splitLine]
      split
      · rfl
      · rw [ih next]

/- Bytes are one line up to the first line feed. -/
theorem splitLine_of_not_mem
    {byte : UInt8}
    {rest : List UInt8}
    (hInside : lineFeed ∉ (byte :: rest).dropLast) :
    splitLine (byte :: rest) = (byte :: rest, []) := by
  induction rest generalizing byte with
  | nil =>
      unfold splitLine
      split <;> rfl
  | cons next rest ih =>
      rw [List.dropLast_cons_cons, List.mem_cons,
        not_or] at hInside
      rw [splitLine, if_neg (Ne.symm hInside.1),
        ih hInside.2]

/- A line is split off as a whole. -/
theorem IsLine.splitLine_eq
    {line : List UInt8}
    (h : IsLine line) :
    splitLine line = (line, []) := by
  rcases List.exists_cons_of_ne_nil h.nonempty with
    ⟨byte, rest, rfl⟩
  exact splitLine_of_not_mem h.inside

------------------------------------------------------------
-- Texts of Lines
------------------------------------------------------------

/- Bytes that are a text encode its characters. -/
theorem eq_of_decodeText?
    {bytes : List UInt8}
    {text : String}
    (hText : decodeText? bytes = some text) :
    bytes = text.toList.flatMap String.utf8EncodeChar := by
  rw [decodeText?, String.fromUTF8?] at hText
  split at hText
  · have hBytes :
        bytes.toByteArray = text.toList.utf8Encode := by
      rw [← Option.some.inj hText,
        ← String.toByteArray_ofList, String.ofList_toList]
      rfl
    exact List.toByteArray_inj.mp hBytes
  · cases hText

/- In the text of a line, a line feed can only be last. -/
theorem IsLine.not_mem_dropLast
    {line : List UInt8}
    {text : String}
    (h : IsLine line)
    (hText : decodeText? line = some text) :
    '\n' ∉ text.toList.dropLast := by
  intro hMem
  have hBytes := eq_of_decodeText? hText
  rcases text.toList.eq_nil_or_concat' with
    hNil | ⟨front, last, hFront⟩
  · rw [hNil] at hMem
    exact nomatch hMem
  rw [hFront, List.dropLast_concat] at hMem
  rw [hFront, List.flatMap_append,
    List.flatMap_singleton] at hBytes
  have hLast : String.utf8EncodeChar last ≠ [] := by
    have hLength := String.length_utf8EncodeChar last
    have hSize := Char.utf8Size_pos last
    intro hNone
    rw [hNone] at hLength
    exact Nat.ne_of_lt hSize hLength
  apply h.inside
  rw [hBytes, List.dropLast_append_of_ne_nil hLast]
  exact List.mem_append_left _
    (List.mem_flatMap.mpr ⟨'\n', hMem, by decide⟩)

/- What is trimmed is a part, and does not end in a blank. -/
theorem Text.trimChars_cases (text : List Char) :
    trimChars text = [] ∨
      ∃ front body last behind,
        text = front ++ (body ++ last :: behind) ∧
        trimChars text = body ++ [last] ∧
        isBlank last = false := by
  rcases (trimChars text).eq_nil_or_concat' with
    hNil | ⟨body, last, hBody⟩
  · exact Or.inl hNil
  · right
    have hTrim :
        (text.dropWhile isBlank).rdropWhile isBlank =
          body ++ [last] := hBody
    rcases text.dropWhile_suffix isBlank with
      ⟨front, hFront⟩
    rcases List.rdropWhile_prefix isBlank
        (text.dropWhile isBlank) with
      ⟨behind, hBehind⟩
    refine ⟨front, body, last, behind, ?_, hBody, ?_⟩
    · rw [← hFront, ← hBehind, hTrim]
      simp
    · have hLast := List.rdropWhile_last_not isBlank
        (text.dropWhile isBlank) (by rw [hTrim]; simp)
      simpa [hTrim] using hLast

/- The trimmed text of a line has no line feed. -/
theorem IsLine.not_mem_trim
    {line : List UInt8}
    {text : String}
    (h : IsLine line)
    (hText : decodeText? line = some text) :
    '\n' ∉ (Text.trim text).toList := by
  have hInside := h.not_mem_dropLast hText
  rw [Text.trim, String.toList_ofList]
  rcases Text.trimChars_cases text.toList with
    hNil | ⟨front, body, last, behind, hSplit, hTrim, hLast⟩
  · rw [hNil]
    exact List.not_mem_nil
  · rw [hSplit, ← List.append_assoc,
      List.dropLast_append_of_ne_nil (by simp)] at hInside
    rw [hTrim]
    intro hMem
    rcases List.mem_append.mp hMem with hBody | hFeed
    · exact hInside
        (List.mem_append_left _
          (List.mem_append_right _ hBody))
    · rw [← List.mem_singleton.mp hFeed] at hLast
      exact absurd hLast (by decide)

end LoxExpr
