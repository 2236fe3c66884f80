import DatalogDoc.Command.Number

/-!
# Arithmetic

Integer expressions over machine words and named values, with the operators of C but for steps and
commas. A part that cannot matter is read but neither computed nor assigned.
-/

namespace DatalogDoc.Shell.Arithmetic

inductive Token
  | number (n : Int)
  | name (t : Text)
  | operator (o : String)
  | unknown
deriving DecidableEq

def wrap (n : Int) : Int := Int.bmod n (Nat.pow 2 64)

def operators : List String :=
  ["<<=", ">>=", "<<", ">>", "<=", ">=", "==", "!=", "&&", "||", "+=", "-=", "*=", "/=", "%=", "&=",
   "^=", "|=", "<", ">", "+", "-", "*", "/", "%", "&", "^", "|", "!", "~", "(", ")", "?", ":", "="]

def isNameStart (c : Char) : Bool := (c.toNat < 128 && c.isAlpha) || c = '_'

def isNamePart (c : Char) : Bool := isNameStart c || c.isDigit

/-- The tokens of an expression. -/
def tokens : Nat → Text → List Token
  | 0, _ => []
  | _ + 1, [] => []
  | fuel + 1, c :: t =>
    if c = ' ' || c = '\t' || c = '\n' then tokens fuel t
    else if c.isDigit then
      match Command.Numeral.read? none (c :: t) with
      | some n => .number n.signed.1 :: tokens fuel n.rest
      | none => [.unknown]
    else if isNameStart c then
      let name := c :: t.takeWhile isNamePart
      .name name :: tokens fuel ((c :: t).drop name.length)
    else
      match operators.find? fun o => o.toList.isPrefixOf (c :: t) with
      | some o => .operator o :: tokens fuel ((c :: t).drop o.length)
      | none => [.unknown]

inductive Fault
  | expression (why : String)
  | number (t : Text)
  | unset (name : Text)

structure State where
  tokens : List Token
  /-- What has been assigned, the latest first. -/
  assigned : List (Text × Int) := []

abbrev Lookup := Text → Except Fault Text

abbrev Eval := StateT State (Except Fault)

def fail {α : Type} (why : String) : Eval α := throw (.expression why)

def peek? : Eval (Option Token) := return (← get).tokens.head?

def drop : Eval Unit := modify fun s => { s with tokens := s.tokens.tail }

def accept (o : String) : Eval Bool := do
  if (← peek?) = some (.operator o) then
    drop
    return true
  else return false

def integer (t : Text) : Except Fault Int :=
  match Command.Numeral.read? none t with
  | some n =>
    if n.rest.all Command.isSpaceByte && !n.signed.2 then .ok n.signed.1 else .error (.number t)
  | none => if t.all Command.isSpaceByte then .ok 0 else .error (.number t)

def value (lookup : Lookup) (name : Text) : Eval Int := do
  match (← get).assigned.lookup name with
  | some n => return n
  | none => integer (← lookup name)

def truth (b : Bool) : Int := if b then 1 else 0

def apply (o : String) (a b : Int) : Eval Int := do
  let word (n : Int) : Nat := (n % Int.ofNat (Nat.pow 2 64)).toNat
  let shift := word b % 64
  match o with
  | "*" => return wrap (a * b)
  | "/" => if b = 0 then fail "division by zero" else return wrap (a.tdiv b)
  | "%" => if b = 0 then fail "division by zero" else return wrap (a.tmod b)
  | "+" => return wrap (a + b)
  | "-" => return wrap (a - b)
  | "<<" => return wrap (a * Int.ofNat (Nat.pow 2 shift))
  | ">>" => return a.fdiv (Int.ofNat (Nat.pow 2 shift))
  | "<" => return truth (a < b)
  | ">" => return truth (a > b)
  | "<=" => return truth (a ≤ b)
  | ">=" => return truth (a ≥ b)
  | "==" => return truth (a = b)
  | "!=" => return truth (a ≠ b)
  | "&" => return wrap (Int.ofNat (word a &&& word b))
  | "^" => return wrap (Int.ofNat (word a ^^^ word b))
  | _ => return wrap (Int.ofNat (word a ||| word b))

/-- How tight an operator binds, the tightest first. -/
def rank? (o : String) : Option Nat :=
  if ["*", "/", "%"].contains o then some 0
  else if ["+", "-"].contains o then some 1
  else if ["<<", ">>"].contains o then some 2
  else if ["<", ">", "<=", ">="].contains o then some 3
  else if ["==", "!="].contains o then some 4
  else if o = "&" then some 5
  else if o = "^" then some 6
  else if o = "|" then some 7
  else none

def assigning? (o : String) : Option String :=
  if ["<<=", ">>=", "+=", "-=", "*=", "/=", "%=", "&=", "^=", "|="].contains o then
    some (String.ofList o.toList.dropLast)
  else if o = "=" then some ""
  else none

mutual

def assignment (lookup : Lookup) : Nat → Bool → Eval Int
  | 0, _ => fail "expecting primary"
  | fuel + 1, idle => do
    match (← get).tokens with
    | .name name :: .operator o :: _ =>
      match assigning? o with
      | none => choice lookup fuel idle
      | some o =>
        drop
        drop
        let n ← assignment lookup fuel idle
        if idle then
          return n
        let n ← if o = "" then pure n else do apply o (← value lookup name) n
        modify fun s => { s with assigned := (name, n) :: s.assigned }
        return n
    | _ => choice lookup fuel idle

def choice (lookup : Lookup) : Nat → Bool → Eval Int
  | 0, _ => fail "expecting primary"
  | fuel + 1, idle => do
    let a ← either lookup fuel idle
    if ← accept "?" then
      let b ← assignment lookup fuel (idle || a = 0)
      unless ← accept ":" do
        fail "expecting ':'"
      let c ← choice lookup fuel (idle || a ≠ 0)
      return if a ≠ 0 then b else c
    else return a

def either (lookup : Lookup) : Nat → Bool → Eval Int
  | 0, _ => fail "expecting primary"
  | fuel + 1, idle => do
    let a ← both lookup fuel idle
    if ← accept "||" then
      let b ← either lookup fuel (idle || a ≠ 0)
      return truth (a ≠ 0 || b ≠ 0)
    else return a

def both (lookup : Lookup) : Nat → Bool → Eval Int
  | 0, _ => fail "expecting primary"
  | fuel + 1, idle => do
    let a ← primary lookup fuel idle
    let a ← binary lookup fuel idle a 7
    if ← accept "&&" then
      let b ← both lookup fuel (idle || a = 0)
      return truth (a ≠ 0 && b ≠ 0)
    else return a

/-- Goes on with operators that bind no looser than a rank. -/
def binary (lookup : Lookup) : Nat → Bool → Int → Nat → Eval Int
  | 0, _, _, _ => fail "expecting primary"
  | fuel + 1, idle, a, loosest => do
    match ← peek? with
    | some (.operator o) =>
      match rank? o with
      | none => return a
      | some rank =>
        if rank ≤ loosest then
          drop
          let b ← primary lookup fuel idle
          let b ← if rank = 0 then pure b else binary lookup fuel idle b (rank - 1)
          let a ← if idle then pure b else apply o a b
          binary lookup fuel idle a loosest
        else return a
    | _ => return a

def primary (lookup : Lookup) : Nat → Bool → Eval Int
  | 0, _ => fail "expecting primary"
  | fuel + 1, idle => do
    let token := (← get).tokens.head?
    drop
    match token with
    | some (.number n) => return n
    | some (.name name) => if idle then return 0 else value lookup name
    | some (.operator "(") =>
      let n ← assignment lookup fuel idle
      unless ← accept ")" do
        fail "expecting ')'"
      return n
    | some (.operator "+") => primary lookup fuel idle
    | some (.operator "-") => return wrap (-(← primary lookup fuel idle))
    | some (.operator "!") => return truth ((← primary lookup fuel idle) = 0)
    | some (.operator "~") => return -(← primary lookup fuel idle) - 1
    | _ => fail "expecting primary"

end

def evaluate (lookup : Lookup) (t : Text) : Except Fault (Int × List (Text × Int)) := do
  let tokens := tokens (t.length + 1) t
  let (n, s) ← (assignment lookup (20 * tokens.length + 20) false).run { tokens }
  if s.tokens.isEmpty then
    return (n, s.assigned)
  else throw (.expression "expecting EOF")

end DatalogDoc.Shell.Arithmetic
