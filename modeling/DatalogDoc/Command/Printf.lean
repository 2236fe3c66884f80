import DatalogDoc.Command.Decimal
import DatalogDoc.Command.Echo

/-!
# Printing by a format

`printf` fills its arguments into a format, which is used again as long as arguments are left.
-/

namespace DatalogDoc.Command

structure Shape where
  flags : Text := []
  width : Nat := 0
  precision : Option Nat := none

namespace Shape

def has (s : Shape) (flag : Char) : Bool := s.flags.contains flag

/-- Fills up to the width; zeros go between what stands in front and the digits. -/
def pad (s : Shape) (zeros : Bool) (front digits : Text) : Text :=
  let gap := s.width - (front.length + digits.length)
  if s.has '-' then front ++ digits ++ List.replicate gap ' '
  else if zeros then front ++ List.replicate gap '0' ++ digits
  else List.replicate gap ' ' ++ front ++ digits

def sign (s : Shape) (negative : Bool) : Text :=
  if negative then ['-'] else if s.has '+' then ['+'] else if s.has ' ' then [' '] else []

/-- Lays out an integer given by its digits; none are written for a zero of precision zero. -/
def integer (s : Shape) (front digits : Text) : Text :=
  let digits := if s.precision = some 0 ∧ digits = ['0'] then [] else digits
  let digits := List.replicate (s.precision.getD 0 - digits.length) '0' ++ digits
  s.pad (s.has '0' && s.precision.isNone) front digits

def unsigned (s : Shape) (kind : Char) (n : Nat) : Text :=
  match kind with
  | 'o' =>
    let digits := Nat.toDigits 8 n
    if s.has '#' && digits.head? ≠ some '0' && s.precision.getD 0 ≤ digits.length then
      s.integer [] ('0' :: digits)
    else if s.has '#' && n = 0 && s.precision = some 0 then
      s.pad false [] ['0']
    else s.integer [] digits
  | 'x' => s.integer (if s.has '#' && n ≠ 0 then "0x".toList else []) (Nat.toDigits 16 n)
  | 'X' =>
    s.integer (if s.has '#' && n ≠ 0 then "0X".toList else []) ((Nat.toDigits 16 n).map Char.toUpper)
  | _ => s.integer [] (Nat.toDigits 10 n)

def string (s : Shape) (t : Text) : Text :=
  s.pad false [] (match s.precision with
    | some n => t.take n
    | none => t)

def float (s : Shape) (kind : Char) (negative : Bool) (m : Magnitude) : Text :=
  let zeros := match m with
    | .finite .. => s.has '0'
    | _ => false
  s.pad zeros (s.sign negative) (m.write kind s.precision (s.has '#'))

end Shape

namespace Printf

structure State where
  out : Text := []
  arguments : List Text
  complaints : List Text := []
  stopped : Bool := false
  fault : Option Text := none

abbrev Fill := StateM State

def print (t : Text) : Fill Unit := modify fun s => { s with out := t.reverse ++ s.out }

def next? : Fill (Option Text) := do
  let s ← get
  match s.arguments with
  | [] => return none
  | t :: rest =>
    set { s with arguments := rest }
    return some t

def check (argument rest : Text) (cut : Bool) : Fill Unit := do
  let complain (why : String) : Fill Unit := modify fun s =>
    { s with complaints := s.complaints ++ [argument ++ ": ".toList ++ why.toList] }
  if rest ≠ [] then
    complain (if rest = argument then "expected numeric value" else "not completely converted")
  else if cut then
    complain "Numerical result out of range"

def nextNumeral : Fill (Numeral ⊕ Nat) := do
  let none' : Numeral ⊕ Nat := .inr 0
  match ← next? with
  | none => return none'
  | some argument =>
    match argument with
    | '\'' :: c => return .inr (c.head?.elim 0 Char.toNat)
    | '"' :: c => return .inr (c.head?.elim 0 Char.toNat)
    | _ =>
      match Numeral.read? none argument with
      | some n => return .inl { n with rest := n.rest }
      | none =>
        check argument argument false
        return none'

def nextSigned : Fill Int := do
  let argument := (← get).arguments.headD []
  match ← nextNumeral with
  | .inr n => return Int.ofNat n
  | .inl n =>
    check argument n.rest n.signed.2
    return n.signed.1

def nextUnsigned : Fill Nat := do
  let argument := (← get).arguments.headD []
  match ← nextNumeral with
  | .inr n => return n
  | .inl n =>
    check argument n.rest n.unsigned.2
    return n.unsigned.1

def nextFloat : Fill (Bool × Magnitude) := do
  let zero : Bool × Magnitude := (false, .finite 0 0)
  match ← next? with
  | none => return zero
  | some argument =>
    match argument with
    | '\'' :: c => return (false, .finite (c.head?.elim 0 Char.toNat) 0)
    | '"' :: c => return (false, .finite (c.head?.elim 0 Char.toNat) 0)
    | _ =>
      match Magnitude.read? argument with
      | none =>
        check argument argument false
        return zero
      | some (negative, m, rest) =>
        check argument rest false
        return (negative, m)

/-- Prints the next argument as a kind of conversion says; false for an unknown kind. -/
def convert (s : Shape) (kind : Char) : Fill Bool := do
  match kind with
  | 'b' =>
    let t := (← next?).getD []
    let (t, cut) := Escapes.expand { zero := true } t.length t
    print (s.string t)
    if cut then
      modify fun s => { s with stopped := true }
  | 'c' => print (s.pad false [] [((← next?).bind List.head?).getD '\x00'])
  | 's' => print (s.string ((← next?).getD []))
  | 'd' | 'i' =>
    let n ← nextSigned
    print (s.integer (s.sign (n < 0)) (Nat.toDigits 10 n.natAbs))
  | 'o' | 'u' | 'x' | 'X' => print (s.unsigned kind (← nextUnsigned))
  | 'e' | 'E' | 'f' | 'F' | 'g' | 'G' =>
    let (negative, m) ← nextFloat
    print (s.float kind negative m)
  | _ => return false
  return true

def size (t : Text) : Fill (Option Int × Text) := do
  match t with
  | '*' :: t => return (some (← nextSigned), t)
  | t =>
    let digits := t.takeWhile Char.isDigit
    return (if digits.isEmpty then none else some (Int.ofNat (decimalValue digits)), t.drop digits.length)

def shape (t : Text) : Fill (Shape × Text) := do
  let flags := t.takeWhile "#-+ 0".toList.contains
  let (width, t) ← size (t.drop flags.length)
  let flags := if width.any (· < 0) then '-' :: flags else flags
  let (precision, t) ← match t with
    | '.' :: t => do
      let (n, t) ← size t
      pure (some (n.getD 0), t)
    | t => pure (none, t)
  let precision := match precision with
    | some n => if n < 0 then none else some n.toNat
    | none => none
  return ({ flags, width := (width.getD 0).natAbs, precision }, t)

def once : Nat → Text → Fill Unit
  | 0, _ => return
  | _ + 1, [] => return
  | fuel + 1, '\\' :: t => do
    let (c, rest) := Escapes.read {} t
    print [c]
    once fuel rest
  | fuel + 1, '%' :: '%' :: t => do
    print ['%']
    once fuel t
  | fuel + 1, '%' :: t => do
    let (s, rest) ← shape t
    match rest with
    | [] => modify fun s => { s with fault := some "missing format character".toList }
    | kind :: rest =>
      if ← convert s kind then
        unless (← get).stopped do
          once fuel rest
      else
        let directive := '%' :: t.take (t.length - rest.length)
        modify fun s => { s with fault := some (directive ++ ": invalid directive".toList) }
  | fuel + 1, c :: t => do
    print [c]
    once fuel t

def all (format : Text) : Nat → Fill Unit
  | 0 => return
  | fuel + 1 => do
    let before := (← get).arguments.length
    once format.length format
    let s ← get
    unless s.stopped || s.fault.isSome || s.arguments.isEmpty || s.arguments.length = before do
      all format fuel

def run (format : Text) (arguments : List Text) : State :=
  let (_, s) := (all format (arguments.length + 1)).run { arguments }
  { s with out := s.out.reverse }

end Printf

end DatalogDoc.Command
