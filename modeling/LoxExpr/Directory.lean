import LoxExpr.Bytes
import LoxExpr.Failure

/-
  This file defines a directory of files without
  subdirectories, and how a path is looked up in it.

  Key definitions include:
    * `ReadError`
    * `Directory`
    * `readBytes`
    * `Directory.find`
    * `Directory.read`
-/

namespace LoxExpr

------------------------------------------------------------
-- Errors of Reading
------------------------------------------------------------

/-
  Why a file cannot be read as text: the operating system
  refuses, with a description and a number, or the bytes are
  no text.
-/
inductive ReadError where
| system (description : String) (code : Nat)
| notText
deriving DecidableEq, Repr

namespace ReadError

/- The path names nothing. -/
def missing : ReadError :=
  .system "No such file or directory" 2

/- The path goes through a file. -/
def notDirectory : ReadError :=
  .system "Not a directory" 20

/- The path names a directory. -/
def isDirectory : ReadError :=
  .system "Is a directory" 21

/- The wording of an error of reading. -/
def message : ReadError → String
| .system description code =>
    description ++
      " (os error " ++ Decimal.natText code ++ ")"
| .notText => notTextMessage

/- The failure to open a source file. -/
def failure
    (path : String)
    (e : ReadError) : Failure :=
  .internal
    ["Failed open source file " ++ path, e.message]

end ReadError

/- The text of the bytes of a file. -/
def readBytes
    (bytes : List UInt8) : Except ReadError String :=
  match decodeText? bytes with
  | some text => .ok text
  | none => .error .notText

------------------------------------------------------------
-- Directories
------------------------------------------------------------

/- The files of a directory by their names. -/
structure Directory where
  files : List (String × List UInt8)

/- The place that a path has led to. -/
inductive Place where
| directory
| file : List UInt8 → Place

namespace Directory

/- Go from the directory to one of its files. -/
def enter
    (d : Directory)
    (name : String) : Except ReadError Place :=
  match d.files.lookup name with
  | some bytes => .ok (.file bytes)
  | none => .error .missing

/- What lies outside: directories without known files. -/
def outside : Directory :=
  ⟨[]⟩

/-
  Follow the components of a path.  An empty one and a dot
  stay in the directory, two dots leave it, and nothing is
  behind a file.
-/
def follow
    (d : Directory) :
    List String → Place → Except ReadError Place
| [], place => .ok place
| _ :: _, .file _ => .error .notDirectory
| name :: rest, .directory =>
    if name == "" || name == "." then
      d.follow rest .directory
    else if name == ".." then
      outside.follow rest .directory
    else do
      d.follow rest (← d.enter name)

/-
  The place that a path names.  An empty path names none, and
  a path that begins with a slash starts outside.
-/
def find
    (d : Directory)
    (path : String) : Except ReadError Place :=
  let components := path.splitOn "/"
  if path.isEmpty then
    .error .missing
  else if path.startsWith "/" then
    outside.follow components .directory
  else
    d.follow components .directory

/- The text of the file that a path names. -/
def read
    (d : Directory)
    (path : String) : Except ReadError String := do
  match ← d.find path with
  | .directory => .error .isDirectory
  | .file bytes => readBytes bytes

end Directory

end LoxExpr
