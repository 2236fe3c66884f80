import DatalogDoc.Command.Number
import DatalogDoc.Host.World

/-!
# Tests

The expressions of `test`: properties of files and strings, comparisons, and their combination by
`!`, `-a`, `-o` and parentheses. A word counts as an operator only where it has operands.
-/

namespace DatalogDoc.Command.Test

inductive Operator
  | unary (letter : Char)
  | binary
  | negation
  | conjunction
  | disjunction
  | opening
  | closing
deriving DecidableEq

def operator? (t : Text) : Option Operator :=
  match String.ofList t with
  | "!" => some .negation
  | "-a" => some .conjunction
  | "-o" => some .disjunction
  | "(" => some .opening
  | ")" => some .closing
  | _ =>
    if ["=", "!=", "<", ">", "-eq", "-ne", "-ge", "-gt", "-le", "-lt", "-nt", "-ot", "-ef"].contains
        (String.ofList t) then
      some .binary
    else
      match t with
      | ['-', c] => if "rwxefdcbpugkstznhLOGS".toList.contains c then some (.unary c) else none
      | _ => none

inductive Token
  | none
  | operand
  | operator (o : Operator)
deriving DecidableEq

def isOperand : List Text → Bool
  | [_] | [] => true
  | [_, _] => false
  | _ :: next :: _ => operator? next = some .binary

def token : List Text → Token
  | [] => .none
  | t :: rest =>
    match operator? t with
    | some (.unary c) => if isOperand (t :: rest) then .operand else .operator (.unary c)
    | some .opening => if rest.isEmpty then .operand else .operator .opening
    | some o => .operator o
    | Option.none => .operand

def number (t : Text) : Except Text Int :=
  match Numeral.read? (some 10) t with
  | some n =>
    if n.rest.all isSpaceByte && !n.signed.2 then .ok n.signed.1
    else .error ("Illegal number: ".toList ++ t)
  | Option.none => .error ("Illegal number: ".toList ++ t)

def fileProperty (letter : Char) (node : Path × Node) : Bool :=
  match letter, node.2 with
  | 'e', _ | 'r', _ | 'w', _ | 'O', _ | 'G', _ => true
  | 'x', .directory => true
  | 'x', node => node.isProgram
  | 'f', .regular .. | 'f', .tool _ => true
  | 'd', .directory => true
  | 's', .regular content _ => !content.isEmpty
  | 's', .directory | 's', .tool _ => true
  | 'c', .device d => d = .null || d = .full || d = .terminal
  | _, _ => false

def unary (files : Files) (letter : Char) (t : Text) : Bool :=
  match letter with
  | 'z' => t.isEmpty
  | 'n' => !t.isEmpty
  | 't' => false
  | _ => (files.find (Octets.toText t)).toOption.any (fileProperty letter)

def binary (files : Files) (a op b : Text) : Except Text Bool := do
  let compare (f : Int → Int → Bool) : Except Text Bool := do
    let x ← number a
    let y ← number b
    return f x y
  match String.ofList op with
  | "=" => return a = b
  | "!=" => return a ≠ b
  | "<" => return a < b
  | ">" => return b < a
  | "-eq" => compare (· == ·)
  | "-ne" => compare (· != ·)
  | "-ge" => compare (· ≥ ·)
  | "-gt" => compare (· > ·)
  | "-le" => compare (· ≤ ·)
  | "-lt" => compare (· < ·)
  | "-ef" =>
    let place (t : Text) : Option Path := ((files.find (Octets.toText t)).toOption).map (·.1)
    return (place a).isSome && place a = place b
  | _ => return false

abbrev Reader := StateT (List Text) (Except Text)

def syntaxFault {α : Type} (op why : Text) : Reader α :=
  throw (if op.isEmpty then why else op ++ ": ".toList ++ why)

def step : Reader Unit := modify List.tail

def current : Reader Text := return (← get).headD []

/-- An operand with what it belongs to, given how the current word is to be taken and how an
expression in parentheses is read. -/
def primary (files : Files) (inner : Token → Reader Bool) (t : Token) : Reader Bool := do
  match t with
  | .none => return false
  | .operator .opening =>
    step
    let t := token (← get)
    if t = .operator .closing then
      return false
    let result ← inner t
    step
    unless token (← get) = .operator .closing do
      syntaxFault [] "closing paren expected".toList
    return result
  | .operator (.unary c) =>
    let op ← current
    step
    if (← get).isEmpty then
      syntaxFault op "argument expected".toList
    return unary files c (← current)
  | _ =>
    let a ← current
    match token (← get).tail with
    | .operator .binary =>
      step
      let op ← current
      step
      if (← get).isEmpty then
        syntaxFault op "argument expected".toList
      binary files a op (← current)
    | _ => return !a.isEmpty

mutual

def negation (files : Files) : Nat → Token → Reader Bool
  | 0, _ => return false
  | fuel + 1, t => do
    if t = .operator .negation then
      let t := token (← get).tail
      if t ≠ .none then
        step
      return !(← negation files fuel t)
    else primary files (disjunction files fuel) t

def conjunction (files : Files) : Nat → Token → Reader Bool
  | 0, _ => return false
  | fuel + 1, t => do
    let first ← negation files fuel t
    if token (← get).tail = .operator .conjunction then
      step
      step
      let rest ← conjunction files fuel (token (← get))
      return first && rest
    else return first

def disjunction (files : Files) : Nat → Token → Reader Bool
  | 0, _ => return false
  | fuel + 1, t => do
    let first ← conjunction files fuel t
    if token (← get).tail = .operator .disjunction then
      step
      step
      let rest ← disjunction files fuel (token (← get))
      return first || rest
    else return first

end

def evaluate (files : Files) (t : Token) (words : List Text) : Except Text Bool := do
  let (result, rest) ← (disjunction files (4 * words.length + 4) t).run words
  match rest with
  | a :: _ :: _ => throw (a ++ ": unexpected operator".toList)
  | _ => return result

/-- The truth of the words of a test. Up to four of them are read in the way that leaves the fewest
operators. -/
def run (files : Files) (words : List Text) : Except Text Bool :=
  match words with
  | [] => .ok false
  | [a, op, b] =>
    if operator? op = some .binary then evaluate files .operand words
    else shorten [a, op, b]
  | [a, b, c, d] => shorten [a, b, c, d]
  | words => evaluate files (token words) words
where
  shorten : List Text → Except Text Bool
    | ['!'] :: [a, op, b] =>
      (if operator? op = some .binary then evaluate files .operand [a, op, b]
        else shorten [a, op, b]).map (!·)
    | ['!'] :: rest => (evaluate files (token rest) rest).map (!·)
    | ['('] :: rest =>
      if rest.getLast? = some [')'] then
        evaluate files (token rest.dropLast) rest.dropLast
      else evaluate files (token (['('] :: rest)) (['('] :: rest)
    | words => evaluate files (token words) words

end DatalogDoc.Command.Test
