import DatalogDoc.Text

/-!
# Regular expressions

What an expression fits at a place of a text. Each way of fitting ends at a place and says where the
groups stand. The ways are listed by preference: more turns of a repetition before fewer, and the
first of two alternatives before the second. Of all ways the longest is taken, and among these the
preferred one. Unless an expression asks for what a group has fitted, only the first way to each
place matters.
-/

namespace DatalogDoc.Command

inductive Anchor
  | lineStart
  | lineEnd
  | textStart
  | textEnd
  | wordStart
  | wordEnd
  | wordEdge
  | noWordEdge
deriving DecidableEq

inductive Regex
  | empty
  | one (accepts : Char → Bool)
  | anchor (a : Anchor)
  | sequence (first second : Regex)
  | either (first second : Regex)
  | many (body : Regex)
  | group (number : Nat) (body : Regex)
  | repeated (number : Nat)

structure Pattern where
  regex : Regex
  groups : Nat := 0
  /-- Whether what a group has fitted is asked for. -/
  repeats : Bool := false
  /-- Whether letters are taken for small ones. -/
  folded : Bool := false
  multiline : Bool := false

structure Fit where
  place : Nat
  groups : List (Nat × Nat × Nat) := []
deriving DecidableEq

namespace Fit

def close (f : Fit) (number start : Nat) : Fit :=
  { f with groups := (number, start, f.place) :: f.groups.filter fun g => g.1 ≠ number }

end Fit

def isWordChar (c : Char) : Bool := c.toNat < 128 && (c.isAlphanum || c = '_')

namespace Pattern

section

variable (p : Pattern) (text : Array Char)

def char? (i : Nat) : Option Char :=
  text[i]?.map fun c => if p.folded then c.toLower else c

def isWordAt (i : Nat) : Bool := text[i]?.any isWordChar

def isWordBefore (i : Nat) : Bool := 0 < i && isWordAt text (i - 1)

def holds (i : Nat) : Anchor → Bool
  | .lineStart => i = 0 || (p.multiline && text[i - 1]? = some '\n')
  | .lineEnd => i = text.size || (p.multiline && text[i]? = some '\n')
  | .textStart => i = 0
  | .textEnd => i = text.size
  | .wordStart => !isWordBefore text i && isWordAt text i
  | .wordEnd => isWordBefore text i && !isWordAt text i
  | .wordEdge => isWordBefore text i != isWordAt text i
  | .noWordEdge => isWordBefore text i == isWordAt text i

/-- Drops all but the first way to each place; only equal ways if groups are asked for. -/
def distinct (fits : List Fit) : List Fit :=
  if p.repeats then fits.eraseDups
  else
    ((fits.foldl
      (fun (seen, kept) f =>
        if Nat.testBit seen f.place then (seen, kept) else (seen ||| 1 <<< f.place, f :: kept))
      ((0 : Nat), [])).2).reverse

def countAccepted (accepts : Char → Bool) : Nat → Nat → Nat
  | 0, _ => 0
  | fuel + 1, i =>
    if (p.char? text i).any accepts then countAccepted accepts fuel (i + 1) + 1 else 0

/-- Adds the ways of a repetition that go on from a way, which is last itself. A turn that fits
nothing is taken only as the first one. -/
def turns (body : Fit → List Fit) : Nat → Bool → List Fit → Fit → List Fit
  | 0, _, found, f => f :: found
  | fuel + 1, isFirst, found, f =>
    let isKnown (found : List Fit) (g : Fit) : Bool :=
      if p.repeats then found.contains g else found.any (·.place = g.place)
    let found := (body f).foldl
      (fun found g =>
        if isKnown found g then found
        else if g.place = f.place then (if isFirst && p.repeats then g :: found else found)
        else turns body fuel false found g)
      found
    if isKnown found f then found else f :: found

def fits : Regex → Fit → List Fit
  | .empty, f => [f]
  | .one accepts, f => if (p.char? text f.place).any accepts then [{ f with place := f.place + 1 }] else []
  | .anchor a, f => if p.holds text f.place a then [f] else []
  | .sequence first second, f => p.distinct ((fits first f).flatMap (fits second))
  | .either first second, f => p.distinct (fits first f ++ fits second f)
  | .many (.one accepts), f =>
    let n := p.countAccepted text accepts (text.size - f.place) f.place
    (List.range (n + 1)).reverse.map fun k => { f with place := f.place + k }
  | .many body, f => (p.turns (fits body) (text.size - f.place + 1) true [] f).reverse
  | .group number body, f => (fits body f).map (·.close number f.place)
  | .repeated number, f =>
    match f.groups.lookup number with
    | none => []
    | some (start, stop) =>
      let n := stop - start
      let same := (List.range n).all fun k =>
        p.char? text (start + k) = p.char? text (f.place + k)
      if same && f.place + n ≤ text.size then [{ f with place := f.place + n }] else []

def longest? (i : Nat) : Option Fit :=
  (p.fits text p.regex { place := i }).foldl
    (fun best f => match best with
      | none => some f
      | some b => if b.place < f.place then some f else best)
    none

/-- The first place from a given one on at which the pattern fits, and the longest fit there. -/
def search? : Nat → Nat → Option (Nat × Fit)
  | 0, _ => none
  | fuel + 1, i =>
    match p.longest? text i with
    | some f => some (i, f)
    | none => search? fuel (i + 1)

def find? (start : Nat) : Option (Nat × Fit) := p.search? text (text.size + 1 - start) start

end

end Pattern

end DatalogDoc.Command
