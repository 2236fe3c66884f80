import DatalogDoc.Text

/-!
# Shell scripts

What a script says once it is read: commands with words, assignments and redirections, joined by
lists, pipes, conditions and loops. Words keep which of their parts were quoted, because only the
others are split into fields and taken for patterns.
-/

namespace DatalogDoc.Shell

inductive FileMode
  | read
  | write
  | force
  | append
  | readWrite
deriving DecidableEq

mutual

inductive Piece
  | literal (t : Text)
  | quoted (t : Text)
  | parameter (name : Text) (use : Use) (quoted : Bool)
  | output (script : Script) (quoted : Bool)
  | arithmetic (expression : List Piece) (quoted : Bool)

/-- What is asked of a parameter. The words are for a parameter that is not set or, in some forms,
that is set but empty. -/
inductive Use
  | value
  | length
  | fallback (orEmpty : Bool) (word : List Piece)
  | assign (orEmpty : Bool) (word : List Piece)
  | demand (orEmpty : Bool) (word : List Piece)
  | alternative (orEmpty : Bool) (word : List Piece)
  /-- The value without the part at one end that fits a pattern. -/
  | trim (atEnd longest : Bool) (pattern : List Piece)
  | malformed

inductive Redirection
  | file (descriptor : Nat) (mode : FileMode) (name : List Piece)
  | copy (descriptor : Nat) (source : List Piece)
  | document (descriptor : Nat) (number : Nat)

inductive Script
  | skip
  | simple (line : Nat) (assignments : List (Text × List Piece)) (words : List (List Piece))
    (redirections : List Redirection)
  | pipeline (parts : List Script) (background : Bool)
  | sequence (first second : Script)
  | both (first second : Script)
  | either (first second : Script)
  | negated (script : Script)
  | background (script : Script) (redirections : List Redirection)
  | redirected (line : Nat) (script : Script) (redirections : List Redirection)
  | subshell (line : Nat) (script : Script) (redirections : List Redirection)
  | branch (test yes no : Script)
  /-- Runs the body as long as the test ends with the expected outcome. -/
  | loop (expected : Bool) (test body : Script)
  | forEach (line : Nat) (name : Text) (words : Option (List (List Piece))) (body : Script)
  | choose (line : Nat) (word : List Piece) (cases : List (List (List Piece) × Script))
  | define (name : Text) (body : Script)

end

abbrev Word := List Piece

def isNameStart (c : Char) : Bool := (c.toNat < 128 && c.isAlpha) || c = '_'

def isNamePart (c : Char) : Bool := isNameStart c || c.isDigit

def isName : Text → Bool
  | c :: t => isNameStart c && t.all isNamePart
  | [] => false

def isSpecial (c : Char) : Bool := c.isDigit || "@*#?$!-".toList.contains c

/-- The commands of the shell that a function cannot stand in for, and whose failure ends the
shell. -/
def isSpecialCommand (t : Text) : Bool :=
  [".", ":", "break", "continue", "eval", "exec", "exit", "export", "local", "readonly", "return",
   "set", "shift", "times", "trap", "unset"].contains (String.ofList t)

namespace Word

def plain? : Word → Option Text
  | [.literal t] => some t
  | _ => none

def assignment? : Word → Option (Text × Word)
  | .literal t :: rest =>
    let name := t.takeWhile (· ≠ '=')
    match t.drop name.length with
    | '=' :: value =>
      if isName name then some (name, if value.isEmpty then rest else .literal value :: rest)
      else none
    | _ => none
  | _ => none

def text : Word → Text
  | [] => []
  | .literal t :: rest | .quoted t :: rest => t ++ text rest
  | _ :: rest => text rest

def join : Word → Word
  | .literal t :: rest =>
    match join rest with
    | .literal u :: more => .literal (t ++ u) :: more
    | more => .literal t :: more
  | .quoted t :: rest =>
    match join rest with
    | .quoted u :: more => .quoted (t ++ u) :: more
    | more => .quoted t :: more
  | p :: rest => p :: join rest
  | [] => []

end Word

end DatalogDoc.Shell
