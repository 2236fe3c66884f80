import DatalogDoc.Host.World

/-!
# What a program file stands for

A file that starts with `#!` names the program that runs it. Only a front of the file is looked at,
and what is cut off there must not be part of the name.
-/

namespace DatalogDoc

namespace Interpreter

def window : Nat := 256

def isGap (c : Char) : Bool := c = ' ' || c = '\t'

def endsName (c : Char) : Bool := isGap c || c = '\x00'

def command (line : Text) : Text × Option Text :=
  let name := line.takeWhile (!endsName ·)
  let rest := line.drop name.length
  match rest.head?, rest.dropWhile isGap with
  | some '\x00', _ | none, _ | _, [] => (name, none)
  | _, argument =>
    let argument := argument.takeWhile (· ≠ '\x00')
    (name, some argument)

/-- The program that a file names to run it, with an argument, or nothing if there is none. A file
that is all `#!` names the empty program. -/
def ofContent? (content : Bytes) : Option (Text × Option Text) :=
  let front := Octets.ofBytes (content.take window)
  let front := front ++ List.replicate (window - front.length) '\x00'
  match front with
  | '#' :: '!' :: rest =>
    let line := rest.takeWhile fun c => c ≠ '\n' && c ≠ '\x00'
    let body := line.dropWhile isGap
    if rest[line.length]? = some '\n' then
      match (body.reverse.dropWhile isGap).reverse with
      | [] => none
      | body => some (command body)
    else
      let body := (rest.take (window - 3)).dropWhile isGap
      if body.any endsName then some (command body) else none
  | _ => none

end Interpreter

structure Image where
  tool : Tool
  name : Text
  arguments : List Text

/-- How many files may stand for each other before a tool must be found. -/
def Image.chain : Nat := 5

def Files.program (files : Files) (file : Text) : Except OsError Node := do
  if file.isEmpty then .error .accessDenied
  let (_, node) ← files.find (Octets.toText file)
  if node.isProgram then .ok node else .error .accessDenied

/-- What a file that is asked to run stands for: a tool, or another program with the arguments it
gets. -/
def Files.imageStep (files : Files) (file name : Text) (arguments : List Text) :
    Except OsError (Image ⊕ Text × List Text) := do
  match ← files.program file with
  | .tool tool => return .inl ⟨tool, name, arguments⟩
  | .regular content _ =>
    match Interpreter.ofContent? content with
    | none => .error .badFormat
    | some (program, argument) => return .inr (program, argument.toList ++ file :: arguments)
  | _ => .error .accessDenied

/-- What runs when a file is asked to, called by a name and with arguments; `depth` bounds the files
that stand for each other. -/
def Files.image (files : Files) (file name : Text) (arguments : List Text) :
    Nat → Except OsError Image
  | 0 => do
    match ← files.imageStep file name arguments with
    | .inl image => return image
    | .inr (program, _) =>
      let _ ← files.program program
      .error .tooManyLinks
  | depth + 1 => do
    match ← files.imageStep file name arguments with
    | .inl image => return image
    | .inr (program, arguments) => files.image program program arguments depth

end DatalogDoc
