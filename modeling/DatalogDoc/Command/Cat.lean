import DatalogDoc.Command.Options
import DatalogDoc.Host.World

/-!
# Printing files

`cat` prints its files one after another, and standard input where a lone hyphen or no file is
named. A file that cannot be read is reported and passed over. Line numbers and marks run on from
one file to the next.
-/

namespace DatalogDoc.Command

structure CatOptions where
  numbered : Bool := false
  textOnly : Bool := false
  endMarked : Bool := false
  tabMarked : Bool := false
  spelled : Bool := false
  squeezed : Bool := false

namespace CatOptions

def forms : List OptionForm :=
  [⟨'A', "show-all", .nothing⟩, ⟨'b', "number-nonblank", .nothing⟩, ⟨'e', "", .nothing⟩,
   ⟨'E', "show-ends", .nothing⟩, ⟨'n', "number", .nothing⟩, ⟨'s', "squeeze-blank", .nothing⟩,
   ⟨'t', "", .nothing⟩, ⟨'T', "show-tabs", .nothing⟩, ⟨'u', "", .nothing⟩,
   ⟨'v', "show-nonprinting", .nothing⟩]

def set (o : CatOptions) : Char → CatOptions
  | 'A' => { o with spelled := true, endMarked := true, tabMarked := true }
  | 'b' => { o with numbered := true, textOnly := true }
  | 'e' => { o with spelled := true, endMarked := true }
  | 'E' => { o with endMarked := true }
  | 'n' => { o with numbered := true }
  | 's' => { o with squeezed := true }
  | 't' => { o with spelled := true, tabMarked := true }
  | 'T' => { o with tabMarked := true }
  | 'v' => { o with spelled := true }
  | _ => o

end CatOptions

structure CatState where
  number : Nat := 0
  inLine : Bool := false
  /-- How many empty lines stand right before, up to two. -/
  empties : Nat := 0
  /-- A carriage return that waits for what follows it. -/
  held : Bool := false

namespace CatState

def label (n : Nat) : Text :=
  let digits := Nat.toDigits 10 n
  List.replicate (6 - digits.length) ' ' ++ digits ++ ['\t']

def spell (c : Char) : Text :=
  let low (n : Nat) : Text :=
    if n < 32 then ['^', Char.ofNat (n + 64)] else if n = 127 then ['^', '?'] else [Char.ofNat n]
  if c.toNat < 128 then low c.toNat else 'M' :: '-' :: low (c.toNat - 128)

def step (o : CatOptions) (s : CatState) (c : Char) : CatState × Text :=
  if c = '\n' then
    let empties := if s.inLine then 0 else min 2 (s.empties + 1)
    let s' := { s with inLine := false, empties, held := false }
    if o.squeezed && empties = 2 then
      (s', [])
    else
      let counted := !s.inLine && o.numbered && !o.textOnly
      let label := if counted then label (s.number + 1) else []
      let mark := (if s.held then ['^', 'M'] else []) ++ if o.endMarked then ['$'] else []
      ({ s' with number := if counted then s.number + 1 else s.number }, label ++ mark ++ ['\n'])
  else
    let counted := !s.inLine && o.numbered
    let number := if counted then s.number + 1 else s.number
    let front := (if s.held then ['\r'] else []) ++ if counted then label number else []
    let s' := { s with number, inLine := true, empties := 0, held := false }
    if c = '\t' then
      (s', front ++ if o.tabMarked then ['^', 'I'] else [c])
    else if o.spelled then
      (s', front ++ spell c)
    else if c = '\r' && o.endMarked then
      ({ s' with held := true }, front)
    else
      (s', front ++ [c])

def print (o : CatOptions) (s : CatState) (t : Text) : CatState × Text :=
  let (s, out) := t.foldl
    (fun (s, out) c =>
      let (s, more) := step o s c
      (s, more.reverse ++ out)) (s, [])
  (s, out.reverse)

end CatState

namespace Cat

/-- Whether reading a file from its start would read what is being printed to it. -/
def isOwnOutput (p : Process) (file : Text) (w : World) : Bool :=
  match (p.descriptors.lookup 1).bind w.channel?, w.files.find (Octets.toText file) with
  | some ⟨.file path offset, _, _, appends⟩, .ok (input, .regular content _) =>
    input = path && (if appends then !content.isEmpty else offset ≠ 0)
  | _, _ => false

/-- Prints the named files; gives whether all could be read, or nothing if printing failed. -/
def files (p : Process) (o : CatOptions) : CatState → Bool → List Text → System (Option (CatState × Bool))
  | s, ok, [] => return some (s, ok)
  | s, ok, file :: rest => do
    let own := file ≠ ['-'] && isOwnOutput p file (← get)
    if own then
      p.complain (p.name ++ ": ".toList ++ file ++ ": input file is output file".toList)
      files p o s false rest
    else
      match ← if file = ['-'] then p.readInput else p.readFile file with
      | .error e =>
        p.complain (p.name ++ ": ".toList ++ file ++ ": ".toList ++ e.description)
        files p o s false rest
      | .ok bytes =>
        let (s, out) := s.print o (Octets.ofBytes bytes)
        match ← p.write 1 out with
        | .ok _ => files p o s ok rest
        | .error e =>
          p.complain (p.name ++ ": write error: ".toList ++ e.description)
          return none

end Cat

def tryHelp (name : Text) : Text :=
  "Try '".toList ++ name ++ " --help' for more information.".toList

def cat : Behaviour := fun p => do
  let line := CommandLine.read CatOptions.forms p.arguments
  match line.fault with
  | some reason =>
    p.complain (p.name ++ ": ".toList ++ reason)
    p.complain (tryHelp p.name)
    return .exited 1
  | none =>
    let o := line.options.foldl (fun o (c, _) => CatOptions.set o c) {}
    match ← Cat.files p o {} true (if line.operands.isEmpty then [['-']] else line.operands) with
    | none => return .exited 1
    | some (s, ok) =>
      if s.held then
        let _ ← p.write 1 ['\r']
      return .exited (if ok then 0 else 1)

end DatalogDoc.Command
