import DatalogDoc.Text

/-!
# Shell patterns

A pattern is a row of characters, some of them quoted: only unquoted ones have a meaning of their
own. `*` stands for any characters, `?` for one, brackets for one of several.
-/

namespace DatalogDoc.Shell

structure Glyph where
  char : Char
  quoted : Bool
deriving DecidableEq

namespace Glyph

def plain (c : Char) : Glyph := ⟨c, false⟩

def is (g : Glyph) (c : Char) : Bool := g.char = c && !g.quoted

end Glyph

inductive Member
  | range (low high : Char)
  | named (test : Char → Bool)

namespace Member

def accepts : Member → Char → Bool
  | range low high, c => low ≤ c && c ≤ high
  | named test, c => test c

def classOf? (name : Text) : Option (Char → Bool) :=
  let isAscii (c : Char) : Bool := c.toNat < 128
  let isPunct (c : Char) : Bool := 33 ≤ c.toNat && c.toNat ≤ 126 && !c.isAlphanum
  match String.ofList name with
  | "alpha" => some fun c => isAscii c && c.isAlpha
  | "digit" => some Char.isDigit
  | "alnum" => some fun c => isAscii c && c.isAlphanum
  | "upper" => some fun c => isAscii c && c.isUpper
  | "lower" => some fun c => isAscii c && c.isLower
  | "space" => some fun c => c = ' ' || (9 ≤ c.toNat && c.toNat ≤ 13)
  | "blank" => some fun c => c = ' ' || c = '\t'
  | "punct" => some isPunct
  | "print" => some fun c => 32 ≤ c.toNat && c.toNat ≤ 126
  | "graph" => some fun c => 33 ≤ c.toNat && c.toNat ≤ 126
  | "cntrl" => some fun c => c.toNat < 32 || c.toNat = 127
  | "xdigit" => some fun c => c.isDigit || "abcdefABCDEF".toList.contains c
  | _ => none

end Member

inductive Glob.Item
  | char (c : Char)
  | any
  | many
  | oneOf (negated : Bool) (members : List Member)

abbrev Glob := List Glob.Item

namespace Glob

def readClass? (t : List Glyph) : Option (Member × List Glyph) := do
  match t with
  | g :: t =>
    if g.is ':' then
      let name := (t.map Glyph.char).takeWhile (· ≠ ':')
      let test ← Member.classOf? name
      match t.drop name.length with
      | _ :: close :: rest => if close.is ']' then some (.named test, rest) else none
      | _ => none
    else none
  | [] => none

/-- Reads the members up to the closing bracket; a bracket that comes first is a member. -/
def readMembers : Nat → Bool → List Glyph → Option (List Member × List Glyph)
  | 0, _, _ => none
  | _ + 1, _, [] => none
  | fuel + 1, first, g :: t => do
    if g.is ']' && !first then
      return ([], t)
    else
      match if g.is '[' then readClass? t else none with
      | some (m, rest) =>
        let (more, rest) ← readMembers fuel false rest
        return (m :: more, rest)
      | none =>
        match t with
        | dash :: high :: rest =>
          if dash.is '-' && !high.is ']' then
            let (more, rest) ← readMembers fuel false rest
            return (.range g.char high.char :: more, rest)
          else
            let (more, rest) ← readMembers fuel false t
            return (.range g.char g.char :: more, rest)
        | t =>
          let (more, rest) ← readMembers fuel false t
          return (.range g.char g.char :: more, rest)

/-- Reads a pattern; a bracket that is not closed stands for itself. -/
def parse : Nat → List Glyph → Glob
  | 0, _ => []
  | _ + 1, [] => []
  | fuel + 1, g :: t =>
    if g.is '*' then .many :: parse fuel t
    else if g.is '?' then .any :: parse fuel t
    else if g.is '[' then
      let (negated, body) := match t with
        | n :: body => if n.is '!' || n.is '^' then (true, body) else (false, n :: body)
        | [] => (false, [])
      match readMembers (body.length + 1) true body with
      | some (members, rest) => .oneOf negated members :: parse fuel rest
      | none => .char '[' :: parse fuel t
    else .char g.char :: parse fuel t

def ofGlyphs (t : List Glyph) : Glob := parse (t.length + 1) t

def fits : Glob → Text → Bool
  | [], t => t.isEmpty
  | .char c :: p, d :: t => c = d && fits p t
  | .any :: p, _ :: t => fits p t
  | .oneOf negated members :: p, d :: t => members.any (·.accepts d) != negated && fits p t
  | .many :: p, [] => fits p []
  | .many :: p, d :: t => fits p (d :: t) || fits (.many :: p) t
  | _ :: _, [] => false
termination_by p t => p.length + t.length

def isPlain (p : Glob) : Bool := p.all fun
  | .char _ => true
  | _ => false

def literal (p : Glob) : Text := p.filterMap fun
  | .char c => some c
  | _ => none

end Glob

end DatalogDoc.Shell
