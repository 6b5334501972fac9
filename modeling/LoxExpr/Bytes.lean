/-
  This file defines how bytes are taken as text, and how a
  line is split off.

  Key definitions include:
    * `decodeText?`
    * `splitLine`
-/

namespace LoxExpr

------------------------------------------------------------
-- Text
------------------------------------------------------------

/- The text that some bytes encode in UTF-8. -/
def decodeText? (bytes : List UInt8) : Option String :=
  String.fromUTF8? bytes.toByteArray

/- The wording where bytes are no text. -/
def notTextMessage : String :=
  "stream did not contain valid UTF-8"

/- No bytes are the empty text. -/
theorem decodeText?_nil : decodeText? [] = some "" := by
  have hValid : (List.toByteArray []).IsValidUTF8 :=
    .intro [] rfl
  rw [decodeText?, String.fromUTF8?, dif_pos hValid]
  rfl

------------------------------------------------------------
-- Lines
------------------------------------------------------------

/- The byte that ends a line. -/
def lineFeed : UInt8 := 10

/-
  The bytes of the first line and those behind it.  A line
  feed belongs to the line that it ends, and the last line
  may have none.
-/
def splitLine : List UInt8 → List UInt8 × List UInt8
| [] => ([], [])
| byte :: rest =>
    if byte = lineFeed then
      ([byte], rest)
    else
      let (line, behind) := splitLine rest
      (byte :: line, behind)

/- Behind the first line there are fewer bytes. -/
theorem length_behind_splitLine_le
    (byte : UInt8)
    (rest : List UInt8) :
    (splitLine (byte :: rest)).2.length ≤ rest.length := by
  induction rest generalizing byte with
  | nil =>
      unfold splitLine
      split <;> exact Nat.le_refl _
  | cons next rest ih =>
      unfold splitLine
      split
      · exact Nat.le_refl _
      · exact Nat.le_succ_of_le (ih next)

end LoxExpr
