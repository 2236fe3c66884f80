import DatalogDoc.Host.Image
import DatalogDoc.Shell.Reader

/-!
# The state of a shell

What a running shell remembers, and the ways in which it leaves the command it is at.
-/

namespace DatalogDoc.Shell

structure Binding where
  /-- Nothing for a name that is marked but has no value yet. -/
  value : Option Text
  exported : Bool := false
  readOnly : Bool := false

inductive Trap
  | ignore
  | run (script : Text)
deriving DecidableEq

structure Options where
  strict : Bool := false
  wary : Bool := false
  traced : Bool := false
  verbose : Bool := false
  literal : Bool := false
  idle : Bool := false
  protective : Bool := false
  exporting : Bool := false

structure Session where
  world : World
  descriptors : Descriptors
  name : Text
  arguments : List Text
  bindings : List (Text × Binding) := []
  functions : List (Text × Script) := []
  aliases : List (Text × Text) := []
  documents : List (Nat × Word) := []
  announcements : Nat := 0
  options : Options := {}
  status : Nat := 0
  line : Nat := 1
  command : Option Text := none
  loops : Nat := 0
  substituted : Nat := 0
  traps : List (Nat × Trap) := []
  number : Nat
  parent : Nat
  /-- The process that this shell is, which differs in a subshell. -/
  real : Nat
  ancestors : List Nat := []
  background : Option Nat := none
  /-- How the jobs in the background ended. -/
  jobs : List (Nat × Status) := []
  /-- The variables that functions have made local, the innermost function first. -/
  locals : List (List (Text × Option Binding)) := []
  /-- Where in a word of options the next one stands. -/
  optionPlace : Nat := 0
  /-- The status from before the trap that is at work. -/
  held : Option Nat := none
  remembered : List Text := []

inductive Jump
  | exit
  | error
  | stopLoops (n : Nat)
  | restartLoop (n : Nat)
  | leaveFunction
  | killed (signal : Nat)
  | replaced (status : Status)

abbrev Run := ExceptT Jump (StateM Session)

namespace Run

def system {α : Type} (act : System α) : Run α := do
  let s ← get
  let (a, world) := act.run s.world
  set { s with world }
  return a

def setStatus (n : Nat) : Run Unit := modify fun s => { s with status := n }

def process : Run Process := do
  let s ← get
  return {
    name := s.name, arguments := s.arguments, descriptors := s.descriptors
    number := s.real, parent := s.parent }

def print (descriptor : Nat) (t : Text) : Run Bool := do
  let p ← process
  match ← system (p.write descriptor t) with
  | .ok _ => return true
  | .error _ => return false

inductive Reaction
  | nothing
  | act (script : Text)
  | die
deriving DecidableEq

def isHarmless (signal : Nat) : Bool := [17, 18, 23, 28].contains signal

def isSovereign (signal : Nat) : Bool := signal = 9 || signal = 19

def reaction (s : Session) (signal : Nat) : Reaction :=
  if isSovereign signal then .die
  else
    match s.traps.lookup signal with
    | some .ignore => .nothing
    | some (.run script) => .act script
    | none => if isHarmless signal then .nothing else .die

def warn (t : Text) : Run Unit := do
  let s ← get
  let command := match s.command with
    | some c => c ++ ": ".toList
    | none => []
  let _ ← print 2
    (s.name ++ ": ".toList ++ Nat.toDigits 10 s.line ++ ": ".toList ++ command ++ t ++ ['\n'])

def fail {α : Type} (t : Text) : Run α := do
  warn t
  setStatus 2
  throw .error

/-! Bindings. -/

def binding? (s : Session) (name : Text) : Option Binding := s.bindings.lookup name

def value? (s : Session) (name : Text) : Option Text := (binding? s name).bind Binding.value

def put (name : Text) (v : Option Binding) : Run Unit := modify fun s =>
  let others := s.bindings.filter fun entry => entry.1 ≠ name
  { s with bindings := match v with
      | some v => (name, v) :: others
      | none => others }

def assign (name value : Text) : Run Unit := do
  let s ← get
  let old := (binding? s name).getD { value := none }
  if old.readOnly then
    fail (name ++ ": is read only".toList)
  put name (some { old with value := some value, exported := old.exported || s.options.exporting })
  if name = "PATH".toList then
    modify fun s => { s with remembered := [] }

def assignChecked (name value : Text) : Run Unit := do
  unless isName name do
    fail (name ++ ": bad variable name".toList)
  assign name value

def exportName (name : Text) : Run Unit := do
  let old := (binding? (← get) name).getD { value := none }
  put name (some { old with exported := true })

def unsetName (name : Text) : Run Unit := do
  if (binding? (← get) name).any Binding.readOnly then
    fail (name ++ ": is read only".toList)
  put name none

def separators (s : Session) : Text := (value? s "IFS".toList).getD " \t\n".toList

def environment (s : Session) : List (Text × Text) :=
  s.bindings.filterMap fun (name, v) => if v.exported then v.value.map (name, ·) else none

def parameter? (s : Session) (name : Text) : Option Text :=
  match name with
  | ['?'] => some (Nat.toDigits 10 s.status)
  | ['$'] => some (Nat.toDigits 10 s.number)
  | ['#'] => some (Nat.toDigits 10 s.arguments.length)
  | ['!'] => s.background.map (Nat.toDigits 10)
  | ['-'] =>
    let flags := [(s.options.strict, 'e'), (s.options.literal, 'f'), (s.options.idle, 'n'),
      (s.options.wary, 'u'), (s.options.verbose, 'v'), (s.options.traced, 'x'),
      (s.options.protective, 'C'), (s.options.exporting, 'a')]
    some (flags.filterMap fun (on, c) => if on then some c else none)
  | c :: _ =>
    if c.isDigit then
      match name.foldl (fun n c => 10 * n + (c.toNat - 48)) 0 with
      | 0 => some s.name
      | n + 1 => s.arguments[n]?
    else value? s name
  | [] => none

/-! Descriptors. -/

def attach (descriptor : Nat) (channel : Option Nat) : Run Unit := modify fun s =>
  let others := s.descriptors.filter fun entry => entry.1 ≠ descriptor
  { s with descriptors := match channel with
      | some i => (descriptor, i) :: others
      | none => others }

/-- Runs something and puts the descriptors back, however it ends. -/
def keepingDescriptors {α : Type} (act : Run α) : Run α := do
  let saved := (← get).descriptors
  let restore : Run Unit := modify fun s => { s with descriptors := saved }
  try
    let a ← act
    restore
    return a
  catch j =>
    restore
    throw j

end Run

def openFault (whenMissing : String) (e : OsError) : Text :=
  if e = .notFound || e = .notDirectory then whenMissing.toList else e.description

end DatalogDoc.Shell
