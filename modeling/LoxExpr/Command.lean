import LoxExpr.Directory
import LoxExpr.Session

/-
  This file defines the command line: the commands, how they
  are read from arguments, and what they print.

  Key definitions include:
    * `Command`
    * `UsageError`
    * `Command.ofArguments`
    * `Command.perform`
    * `Command.executeWith`
    * `Command.execute`
-/

namespace LoxExpr

------------------------------------------------------------
-- Commands
------------------------------------------------------------

/- What can be done with the text of a file. -/
inductive FileAction where
| value
| tokens
| tree
deriving DecidableEq, Repr

/- The commands. -/
inductive Command where
| onFile (action : FileAction) (path : String)
| session
deriving DecidableEq, Repr

------------------------------------------------------------
-- Arguments
------------------------------------------------------------

/- What can be wrong with arguments. -/
inductive UsageError where
| noCommand
| unknownCommand (name : String)
| noPath
| unexpected (argument : String)
deriving DecidableEq, Repr

/- The wording of an error in the arguments. -/
def UsageError.message : UsageError → String
| .noCommand =>
    "the subcommand is required but not provided"
| .unknownCommand name =>
    "unrecognized subcommand '" ++ name ++ "'"
| .noPath =>
    "the argument '<PATH>' is required but not provided"
| .unexpected argument =>
    "unexpected argument '" ++ argument ++ "'"

/- An argument that is written like an option. -/
def isOption (argument : String) : Bool :=
  argument.startsWith "-" && argument != "-"

namespace Command

/- There is nothing behind a command. -/
def alone
    (command : Command) :
    List String → Except UsageError Command
| [] => .ok command
| argument :: _ => .error (.unexpected argument)

/- A command on a file needs its path. -/
def withPath
    (action : FileAction) :
    List String → Except UsageError Command
| [] => .error .noPath
| path :: rest =>
    if isOption path then .error (.unexpected path)
    else (onFile action path).alone rest

/-
  The way in which the program reads a command.  There are no
  options.
-/
def ofArguments : List String → Except UsageError Command
| [] => .error .noCommand
| "file" :: rest => withPath .value rest
| "tokens" :: rest => withPath .tokens rest
| "ast" :: rest => withPath .tree rest
| "repl" :: rest => session.alone rest
| name :: _ =>
    if isOption name then .error (.unexpected name)
    else .error (.unknownCommand name)

end Command

------------------------------------------------------------
-- Performance
------------------------------------------------------------

/- What a program prints, and its exit code. -/
structure Effect where
  screen : Screen
  exitCode : Nat
deriving DecidableEq, Repr

/- A verdict, shown line by line, as the end of a program. -/
def Verdict.effect
    {α : Type}
    (lines : α → List String)
    (v : Verdict α) : Effect :=
  ⟨v.screen lines, v.exitCode⟩

/- An error in the arguments as the end of a program. -/
def UsageError.effect (e : UsageError) : Effect :=
  ⟨.ofErr (unlines [e.message]), 1⟩

/- A failure as the end of a program. -/
def Failure.effect (failure : Failure) : Effect :=
  ⟨failure.screen, failure.exitCode⟩

namespace FileAction

/- Act on a source. -/
def perform
    (source : String) : FileAction → Effect
| .value =>
    (Program.run source).effect fun value => [value]
| .tokens =>
    (Program.tokenize source).effect (List.map Token.text)
| .tree =>
    (Program.parse source).effect fun tree => [tree.text]

/- Act on a file, if it can be read. -/
def performOn
    (action : FileAction)
    (path : String) :
    Except ReadError String → Effect
| .ok source => action.perform source
| .error e => (e.failure path).effect

end FileAction

namespace Command

/- Perform a command in a directory, on some input. -/
def perform
    (directory : Directory)
    (input : List UInt8) : Command → Effect
| .onFile action path =>
    action.performOn path (directory.read path)
| .session => ⟨Session.screen input, 0⟩

/-
  Perform what arguments ask for, by some way of reading
  them.
-/
def executeWith
    (reading : List String → Except UsageError Command)
    (arguments : List String)
    (directory : Directory)
    (input : List UInt8) : Effect :=
  match reading arguments with
  | .ok command => command.perform directory input
  | .error e => e.effect

/- Perform what the arguments of the program ask for. -/
def execute
    (arguments : List String)
    (directory : Directory)
    (input : List UInt8) : Effect :=
  executeWith ofArguments arguments directory input

end Command

end LoxExpr
