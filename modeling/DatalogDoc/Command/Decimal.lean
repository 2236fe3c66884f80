import DatalogDoc.Command.Number

/-!
# Binary fractions in decimal

Writes a number m · 2^e with a fixed count of decimals, or in powers of ten, rounded from the exact
value with ties to the even digit.
-/

namespace DatalogDoc.Command

inductive Magnitude
  | finite (mantissa : Nat) (exponent : Int)
  | infinite
  | undefined

namespace Decimal

/-- A quotient rounded to the nearest integer, a half to the even one. -/
def roundDiv (a b : Nat) : Nat :=
  let q := a / b
  let r := a % b
  if 2 * r > b || (2 * r = b && q % 2 = 1) then q + 1 else q

def scaled (mantissa : Nat) (exponent tens : Int) : Nat × Nat :=
  let a := mantissa * Nat.pow 2 exponent.toNat * Nat.pow 10 tens.toNat
  (a, Nat.pow 2 (-exponent).toNat * Nat.pow 10 (-tens).toNat)

def pointed (point : Bool) (whole decimals : Text) : Text :=
  if decimals.isEmpty && !point then whole else whole ++ '.' :: decimals

def fixed (mantissa : Nat) (exponent : Int) (places : Nat) (point : Bool) : Text :=
  let (a, b) := scaled mantissa exponent places
  let digits := Nat.toDigits 10 (roundDiv a b)
  let digits := List.replicate (places + 1 - digits.length) '0' ++ digits
  pointed point (digits.take (digits.length - places)) (digits.drop (digits.length - places))

/-- The power of ten of the first digit, and so many digits from there, once rounded. -/
def leading (mantissa : Nat) (exponent : Int) (count : Nat) : Int × Text :=
  if mantissa = 0 then (0, List.replicate count '0')
  else
    let (a, b) := scaled mantissa exponent 0
    let guess : Int := Int.ofNat (Nat.toDigits 10 (a / b)).length - 1
    let power : Int :=
      if b ≤ a then guess
      else -Int.ofNat (Nat.toDigits 10 ((b + a - 1) / a)).length + 1
    -- The guess for a fraction may be one too high.
    let power := if b ≤ a then power else
      let (c, d) := scaled mantissa exponent (-power)
      if c < d then power - 1 else power
    let (c, d) := scaled mantissa exponent (Int.ofNat count - 1 - power)
    let digits := Nat.toDigits 10 (roundDiv c d)
    if count < digits.length then (power + 1, digits.take count) else (power, digits)

def exponentText (mark : Char) (power : Int) : Text :=
  let digits := Nat.toDigits 10 power.natAbs
  mark :: (if power < 0 then '-' else '+') :: List.replicate (2 - digits.length) '0' ++ digits

def scientific (mantissa : Nat) (exponent : Int) (places : Nat) (point : Bool) (mark : Char) : Text :=
  let (power, digits) := leading mantissa exponent (places + 1)
  pointed point (digits.take 1) (digits.drop 1) ++ exponentText mark power

/-- In the shorter of the two ways, without needless zeros unless the point is asked for. -/
def general (mantissa : Nat) (exponent : Int) (count : Nat) (point : Bool) (mark : Char) : Text :=
  let count := max count 1
  let (power, digits) := leading mantissa exponent count
  let strip (t : Text) : Text := if point then t else (t.reverse.dropWhile (· = '0')).reverse
  if power < -4 || Int.ofNat count ≤ power then
    pointed point (digits.take 1) (strip (digits.drop 1)) ++ exponentText mark power
  else if power < 0 then
    pointed point ['0'] (strip (List.replicate ((-power).toNat - 1) '0' ++ digits))
  else
    pointed point (digits.take (power.toNat + 1)) (strip (digits.drop (power.toNat + 1)))

end Decimal

namespace Magnitude

def ofBits (bits : Nat) : Magnitude :=
  let fraction := bits % Nat.pow 2 52
  let power := bits / Nat.pow 2 52 % Nat.pow 2 11
  if power = 2047 then if fraction = 0 then infinite else undefined
  else if power = 0 then finite fraction (-1074)
  else finite (fraction + Nat.pow 2 52) (Int.ofNat power - 1075)

def ofDecimal (digits : Nat) (power : Int) : Magnitude :=
  let x := if 0 ≤ power then Float.ofScientific digits false power.toNat
    else Float.ofScientific digits true (-power).toNat
  ofBits x.toBits.toNat

def read? (t : Text) : Option (Bool × Magnitude × Text) :=
  let t := t.dropWhile isSpaceByte
  let (negative, t) := match t with
    | '-' :: t => (true, t)
    | '+' :: t => (false, t)
    | t => (false, t)
  let lower := t.map Char.toLower
  if "infinity".toList.isPrefixOf lower then some (negative, infinite, t.drop 8)
  else if "inf".toList.isPrefixOf lower then some (negative, infinite, t.drop 3)
  else if "nan".toList.isPrefixOf lower then some (negative, undefined, t.drop 3)
  else
    let whole := t.takeWhile Char.isDigit
    let rest := t.drop whole.length
    let decimals := match rest with
      | '.' :: rest => rest.takeWhile Char.isDigit
      | _ => []
    if whole.isEmpty && decimals.isEmpty then none
    else
      let rest := match rest with
        | '.' :: rest => rest.drop decimals.length
        | rest => rest
      let plain := (0, rest)
      let (power, rest) := match rest with
        | e :: after =>
          if e = 'e' || e = 'E' then
            match Numeral.read? (some 10) after with
            | some n =>
              if after.head?.any isSpaceByte then plain
              else (if n.negative then -Int.ofNat n.magnitude else Int.ofNat n.magnitude, n.rest)
            | none => plain
          else plain
        | [] => plain
      let digits := decimalValue (whole ++ decimals)
      let power := max (-100000) (min 100000 power)
      some (negative, ofDecimal digits (power - Int.ofNat decimals.length), rest)

def write (kind : Char) (precision : Option Nat) (point : Bool) (m : Magnitude) : Text :=
  let large := kind.isUpper
  match m with
  | infinite => if large then "INF".toList else "inf".toList
  | undefined => if large then "NAN".toList else "nan".toList
  | finite mantissa exponent =>
    let places := precision.getD 6
    let mark := if large then 'E' else 'e'
    match kind.toLower with
    | 'f' => Decimal.fixed mantissa exponent places point
    | 'e' => Decimal.scientific mantissa exponent places point mark
    | _ => Decimal.general mantissa exponent places point mark

end Magnitude

end DatalogDoc.Command
