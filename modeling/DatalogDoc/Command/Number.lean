import DatalogDoc.Text

/-!
# Numbers at the front of a text

An integer may have blanks and a sign in front, and in an open base `0x` or `0` tell the base. What
does not fit a machine word is cut to the nearest one that does.
-/

namespace DatalogDoc.Command

def digitValue? (c : Char) : Option Nat :=
  if '0' ≤ c ∧ c ≤ '9' then some (c.toNat - 48)
  else if 'a' ≤ c ∧ c ≤ 'z' then some (c.toNat - 87)
  else if 'A' ≤ c ∧ c ≤ 'Z' then some (c.toNat - 55)
  else none

def isDigitIn (base : Nat) (c : Char) : Bool := (digitValue? c).any (· < base)

def readDigits (base : Nat) : Nat → Nat → Text → Nat × Text
  | 0, value, t => (value, t)
  | _ + 1, value, [] => (value, [])
  | n + 1, value, c :: t =>
    match digitValue? c with
    | some d => if d < base then readDigits base n (value * base + d) t else (value, c :: t)
    | none => (value, c :: t)

def decimalValue (t : Text) : Nat := (readDigits 10 t.length 0 t).1

def isSpaceByte (c : Char) : Bool := c = ' ' || (9 ≤ c.toNat && c.toNat ≤ 13)

structure Numeral where
  negative : Bool
  magnitude : Nat
  rest : Text

namespace Numeral

/-- Reads an integer at the front of a text, in the given base or, where there is none, in the base
that the integer tells. -/
def read? (base : Option Nat) (t : Text) : Option Numeral :=
  let t := t.dropWhile isSpaceByte
  let (negative, t) := match t with
    | '-' :: t => (true, t)
    | '+' :: t => (false, t)
    | t => (false, t)
  let (base, t) := match base, t with
    | some base, t => (base, t)
    | none, '0' :: x :: d :: rest =>
      if (x = 'x' || x = 'X') && isDigitIn 16 d then (16, d :: rest) else (8, '0' :: x :: d :: rest)
    | none, '0' :: t => (8, '0' :: t)
    | none, t => (10, t)
  match t with
  | [] => none
  | c :: _ =>
    if isDigitIn base c then
      let (magnitude, rest) := readDigits base t.length 0 t
      some { negative, magnitude, rest }
    else none

def signed (n : Numeral) : Int × Bool :=
  let limit := Nat.pow 2 63
  if n.negative then
    if n.magnitude ≤ limit then (-Int.ofNat n.magnitude, false) else (-Int.ofNat limit, true)
  else if n.magnitude < limit then (Int.ofNat n.magnitude, false)
  else (Int.ofNat (limit - 1), true)

/-- The value as an unsigned word, and whether it had to be cut. A negative one counts down from the
top. -/
def unsigned (n : Numeral) : Nat × Bool :=
  let limit := Nat.pow 2 64
  if limit ≤ n.magnitude then (limit - 1, true)
  else if n.negative then ((limit - n.magnitude) % limit, false)
  else (n.magnitude, false)

end Numeral

end DatalogDoc.Command
