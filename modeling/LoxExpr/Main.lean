import LoxExpr.Command

/-
  This file defines the program: it reads files and lines,
  and prints what the library answers.

  Key definitions include:
    * `Screen.print`
    * `Command.start`
    * `main`
-/

namespace LoxExpr

------------------------------------------------------------
-- Printing
------------------------------------------------------------

/- Print on both outputs. -/
def Screen.print (s : Screen) : IO Unit := do
  let out ← IO.getStdout
  out.putStr s.out
  out.flush
  let err ← IO.getStderr
  err.putStr s.err
  err.flush

------------------------------------------------------------
-- Files
------------------------------------------------------------

/- The number and the description in a system error. -/
def errorParts : IO.Error → UInt32 × String
| .alreadyExists _ code details => (code, details)
| .otherError code details => (code, details)
| .resourceBusy code details => (code, details)
| .resourceVanished code details => (code, details)
| .unsupportedOperation code details => (code, details)
| .hardwareFault code details => (code, details)
| .unsatisfiedConstraints code details => (code, details)
| .illegalOperation code details => (code, details)
| .protocolError code details => (code, details)
| .timeExpired code details => (code, details)
| .interrupted _ code details => (code, details)
| .noFileOrDirectory _ code details => (code, details)
| .invalidArgument _ code details => (code, details)
| .permissionDenied _ code details => (code, details)
| .resourceExhausted _ code details => (code, details)
| .inappropriateType _ code details => (code, details)
| .noSuchThing _ code details => (code, details)
| .unexpectedEof => (0, "unexpected end of file")
| .userError details => (0, details)

/-
  A system error of reading.  Some numbers are given below
  zero, and descriptions may begin with a small letter.
-/
def ReadError.ofSystem (e : IO.Error) : ReadError :=
  let (code, details) := errorParts e
  .system details.capitalize code.toInt32.toInt.natAbs

/- Read a file as text. -/
def readFile (path : String) :
    IO (Except ReadError String) := do
  match ← (IO.FS.readBinFile path).toBaseIO with
  | .ok bytes => return readBytes bytes.toList
  | .error e => return .error (.ofSystem e)

------------------------------------------------------------
-- Lines
------------------------------------------------------------

/- Read one line of input, its line feed included. -/
partial def readLine
    (input : IO.FS.Stream)
    (front : List UInt8) : IO (List UInt8) := do
  match (← input.read 1).toList with
  | [] => return front.reverse
  | byte :: _ =>
      if byte = lineFeed then
        return (byte :: front).reverse
      else
        readLine input (byte :: front)

/- Hold a session on the lines of the input. -/
partial def converse (input : IO.FS.Stream) : IO Unit := do
  Session.prompt.print
  let line ← readLine input []
  let (answer, _) := (Session.start line).turn
  answer.screen.print
  if answer.goesOn then
    converse input

------------------------------------------------------------
-- Commands
------------------------------------------------------------

/- Print an effect and give its exit code. -/
def Effect.finish (e : Effect) : IO UInt32 := do
  e.screen.print
  return e.exitCode.toUInt32

/- Perform a command, and give the exit code. -/
def Command.start : Command → IO UInt32
| .onFile action path => do
    (action.performOn path (← readFile path)).finish
| .session => do
    converse (← IO.getStdin)
    return 0

end LoxExpr

------------------------------------------------------------
-- The Program
------------------------------------------------------------

/- Perform the command in the arguments. -/
def main (arguments : List String) : IO UInt32 :=
  match LoxExpr.Command.ofArguments arguments with
  | .ok command => command.start
  | .error e => e.effect.finish
