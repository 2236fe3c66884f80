import DatalogDoc.Command.Sed.Regex

/-!
# Scripts of an editor

A script is a row of commands. Each has the lines it is for, and one that opens a block knows where
the block ends. A jump names a label, and a label the command behind it.
-/

namespace DatalogDoc.Command.Sed

inductive Address
  | line (number : Nat)
  /-- Every so many lines from a first one on. -/
  | every (first step : Nat)
  | last
  /-- The lines that a pattern fits; without one the pattern that was used last. -/
  | fitting (pattern : Option Pattern)

inductive RangeEnd
  | address (a : Address)
  | after (count : Nat)
  | multiple (n : Nat)

structure Selection where
  start : Option Address := none
  stop : Option RangeEnd := none
  negated : Bool := false

inductive Casing
  | same
  | upper
  | lower
deriving DecidableEq

namespace Casing

def apply : Casing → Char → Char
  | same, c => c
  | upper, c => c.toUpper
  | lower, c => c.toLower

end Casing

/-- A part of what takes the place of a match: a text, and behind it what a group has fitted. -/
structure Piece where
  text : Text := []
  group : Option Nat := none
  casing : Casing := .same
  first : Option Casing := none

inductive Sink
  | result
  | stdout
  | stderr
  | file (name : Text)
deriving DecidableEq

structure Substitution where
  pattern : Option Pattern
  pieces : List Piece
  highest : Nat
  /-- The first match to replace, counted from one. -/
  first : Nat := 1
  all : Bool := false
  /-- Whether the line is printed, as it is before and after it was run. -/
  prints : Bool × Bool := (false, false)
  runs : Bool := false
  sink : Option Sink := none

inductive Operation
  | block (stop : Nat)
  /-- Does nothing: the end of a block or a label. -/
  | rest
  | substitute (s : Substitution)
  | exchangeLetters (letters : List (Char × Char))
  | append (text : Text)
  | insert (text : Text)
  | change (text : Text)
  | print
  | printFirst
  | delete
  | deleteFirst
  | next
  | nextToo
  | get
  | getToo
  | hold
  | holdToo
  | swap
  | clear
  | number
  | fileName
  | list (width : Option Nat)
  | quit (code : Nat)
  | leave (code : Nat)
  | readFile (name : Text)
  | readLine (name : Text)
  | write (sink : Sink)
  | writeFirst (sink : Sink)
  | jump (label : Text)
  | jumpIfReplaced (label : Text)
  | jumpUnlessReplaced (label : Text)
  | run (command : Text)
  | unknown (letter : Char)

def Operation.label? : Operation → Option Text
  | jump label | jumpIfReplaced label | jumpUnlessReplaced label => some label
  | _ => none

structure Instruction where
  selection : Selection
  operation : Operation

inductive Source
  | expression (number : Nat)
  | file (name : Text)

structure Position where
  source : Source
  /-- How many characters of the piece are behind. -/
  place : Nat := 0
  line : Nat := 0

def Position.text (p : Position) : Text :=
  match p.source with
  | .expression n =>
    "-e expression #".toList ++ (Nat.repr n).toList ++ ", char ".toList ++ (Nat.repr p.place).toList
  | .file name => "file ".toList ++ name ++ " line ".toList ++ (Nat.repr p.line).toList

inductive Fault
  | mistake (position : Position) (message : Text)
  | failure (message : Text)

namespace Fault

def message : Fault → Text
  | mistake p m => p.text ++ ": ".toList ++ m
  | failure m => m

def code : Fault → UInt8
  | mistake .. => 1
  | failure _ => 4

end Fault

structure Script where
  commands : Array Instruction := #[]
  /-- The labels, the latest first, with the places they name. -/
  labels : List (Text × Nat) := []

namespace Script

/-- Where a jump goes. The empty label is the end of the script. -/
def target? (s : Script) (label : Text) : Option Nat :=
  if label.isEmpty then some s.commands.size else s.labels.lookup label

def missing? (s : Script) : Option Text :=
  s.commands.toList.reverse.findSome? fun c =>
    c.operation.label?.filter fun label => (s.target? label).isNone

end Script

end DatalogDoc.Command.Sed
