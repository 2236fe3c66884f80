import DatalogDoc.Event
import DatalogDoc.Text.Alphanumeric
import DatalogDoc.Text.Blank
import DatalogDoc.Text.Quoted
import DatalogDoc.Text.Utf8

/-!
# The log

Which events are shown, and the line that each is shown as. A filter is a list of directives, each
written `target[span{field}]=level` with most parts left out.
-/

namespace DatalogDoc

/-- Decides about the events whose target starts with some text and that have certain fields: they
are shown down to a level, or not at all. -/
structure Directive where
  target : Text
  fields : List Text
  level : Option Level
deriving DecidableEq

namespace Directive

def number? (t : Text) : Option Nat :=
  let digits := match t with
    | '+' :: digits => digits
    | digits => digits
  if digits.isEmpty || !digits.all Char.isDigit then none
  else some (digits.foldl (fun n c => 10 * n + (c.toNat - 48)) 0)

def level? (t : Text) : Option (Option Level) :=
  let word := t.map Char.toUpper
  if word = "OFF".toList ∨ number? t = some 0 then some none
  else (Level.all.find? fun l => l.name = word || number? t = some (l.rank + 1)).map some

def covers (d : Directive) (e : Event) : Bool :=
  d.target.isPrefixOf e.target
    && d.fields.all fun name => name = "message".toList || e.fields.any (·.1 = name)

/-- Whether a directive is asked before another: a longer target comes first, then more fields, then
the later text. -/
def precedes (d e : Directive) : Bool :=
  let rank (d : Directive) : List Nat :=
    [(Utf8.encode d.target).length, d.fields.length] ++ (d.target ++ d.fields.flatten).map Char.toNat
  rank e < rank d

end Directive

structure Clause where
  target : Text := []
  span : Option Text := none
  field : Option (Text × Option Text) := none
  level : Option Level := some .trace

namespace Clause

def mayStart (c : Char) : Bool := isLetterOrNumber c || c = '-' || c = ':' || c = '_'

def readLevel (part : Text) (start : Nat) (c : Clause) : Option Clause :=
  match part.drop start with
  | [] => some c
  | t => (Directive.level? t).map fun level => { c with level }

/-- Reads what follows a closing bracket. -/
def readRest (part body : Text) (start : Nat) (c : Clause) : Option Clause :=
  match body.drop start with
  | [] => some c
  | '=' :: _ => readLevel part (start + 1) c
  | _ => none

def field? (t : Text) : Option (Text × Option Text) :=
  match t, t.splitOn '=' with
  | [], _ | _, [] => none
  | _, [name] => some (name, none)
  | _, name :: value :: _ => some (name, some value)

def readScope (part body : Text) (start : Nat) (c : Clause) : Option Clause :=
  let slice (first last : Nat) : Text := (part.drop first).take (last - first)
  let stop := start + ((body.drop start).takeWhile fun c => c ≠ ']' && c ≠ '\x7b').length
  match body.drop stop with
  | ']' :: _ => readRest part body (stop + 1) { c with span := some (slice start stop) }
  | '\x7b' :: rest =>
    let span := some (slice start stop)
    let c := { c with span := if span = some [] then none else span }
    let close := stop + 1 + (rest.takeWhile (· ≠ '\x7d')).length
    match field? (slice (stop + 1) close), body.drop close with
    | some field, '\x7d' :: ']' :: _ =>
      readRest part body (close + 2) { c with field := some field }
    | _, _ => none
  | _ => none

/-- Reads a clause. Blanks around it do not count when its parts are told apart, but they do when
these are cut out. -/
def parse? (part : Text) : Option Clause :=
  let body := trim part
  match body with
  | [] => none
  | '[' :: _ => readScope part body 1 {}
  | first :: _ =>
    if !mayStart first then none
    else
      let stop := (body.takeWhile fun c => c ≠ '=' && c ≠ '[').length
      let c : Clause := { target := part.take stop }
      match body.drop stop with
      | [] =>
        match Directive.level? part with
        | some level => some { level }
        | none => some { target := part }
      | '=' :: _ => readLevel part (stop + 1) c
      | _ => readScope part body (stop + 1) c

/-- Events happen outside of spans, and values are compared in spans only: a clause that asks for
one decides about no event. -/
def directive? (c : Clause) : Option Directive :=
  match c.span, c.field with
  | some _, _ | _, some (_, some _) => none
  | none, field => some ⟨c.target, field.toList.map (·.1), c.level⟩

def isBare (c : Clause) : Bool := c.span.isNone && c.field.isNone

end Clause

/-- Directives, of which the first by `Directive.precedes` that covers an event decides. -/
structure Filter where
  directives : List Directive
deriving DecidableEq

namespace Filter

def upTo (level : Level) : Filter := ⟨[⟨[], [], some level⟩]⟩

/-- Reads clauses between commas. Where there is none, only errors are shown. -/
def parse? (t : Text) : Option Filter := do
  let parts := (t.splitOn ',').filter (!·.isEmpty)
  let clauses ← parts.mapM Clause.parse?
  let (bare, bound) := clauses.partition Clause.isBare
  return if clauses.isEmpty then upTo .error else ⟨(bare ++ bound).filterMap Clause.directive?⟩

def deciding? (f : Filter) (e : Event) : Option Directive :=
  (f.directives.filter (·.covers e)).foldl
    (fun best d => match best with
      | some b => if b.precedes d then some b else some d
      | none => some d)
    none

def shows (f : Filter) (e : Event) : Bool :=
  match (f.deciding? e).bind Directive.level with
  | some level => e.level.rank ≤ level.rank
  | none => false

end Filter

namespace Event

/-- Characters that could steer a terminal are spelled out in messages. -/
def tameChar (c : Char) : Text :=
  match c with
  | '\x1b' => "\\x1b".toList
  | '\x07' => "\\x07".toList
  | '\x08' => "\\x08".toList
  | '\x0c' => "\\x0c".toList
  | '\x7f' => "\\x7f".toList
  | c => if 0x80 ≤ c.toNat ∧ c.toNat ≤ 0x9F then codePointEscape c else [c]

def fieldText (styling : Styling) : Text × FieldValue → Text
  | (name, value) =>
    ' ' :: styling .fieldName name ++ styling .faint ['='] ++ match value with
      | .plain t => t
      | .quoted t => quote t
      | .number n => (Nat.repr n).toList

def line (styling : Styling) (time : Text) (e : Event) : Text :=
  let level := e.level.name
  let column := List.replicate (5 - level.length) ' ' ++ level
  styling .faint time ++ ' ' :: styling (.level e.level) column ++ ' ' :: styling .faint e.target
    ++ styling .faint [':'] ++ ' ' :: e.message.flatMap tameChar
    ++ e.fields.flatMap (fieldText styling) ++ ['\n']

end Event

end DatalogDoc
