import DatalogDoc.Proofs.Indexing
import DatalogDoc.Proofs.ScanFaults
import Mathlib.Computability.StateTransition

/-!
# A scan, one character at a time

The calls on one scanner as a machine that takes at most one character of the text in a step. It
keeps an index into the text beside the line and column, and a step that leaves the range of an index
has no outcome.
-/

namespace DatalogDoc

structure Cursor where
  position : Nat
  location : Location

namespace Cursor

def start : Cursor := ⟨0, .start⟩

def behind (read : Text) : Cursor := ⟨read.length, .behind read⟩

def peek (t : Text) (c : Cursor) : Option Char := t[c.position]?

def peekNext (t : Text) (c : Cursor) : Option Char := t[c.position + 1]?

/-- Goes over one character; at the end of the text nothing moves. -/
def advance (t : Text) (c : Cursor) : Cursor :=
  match c.peek t with
  | some char => ⟨c.position + 1, c.location.next char⟩
  | none => c

theorem peek_behind {t read rest : Text} (h : t = read ++ rest) :
    (behind read).peek t = rest.head? := by
  rw [h, peek, behind, List.getElem?_append_right (le_refl _), Nat.sub_self,
    List.head?_eq_getElem?]

theorem peekNext_behind {t read rest : Text} {c : Char} (h : t = read ++ c :: rest) :
    (behind read).peekNext t = rest.head? := by
  rw [h]
  change (read ++ c :: rest)[read.length + 1]? = rest.head?
  rw [List.getElem?_append_right (by omega), Nat.add_sub_cancel_left, List.getElem?_cons_succ,
    List.head?_eq_getElem?]

theorem behind_concat (read : Text) (c : Char) :
    behind (read ++ [c]) = ⟨read.length + 1, (Location.behind read).next c⟩ := by
  have hlocation : Location.behind (read ++ [c]) = (Location.behind read).next c := by
    rw [← Location.start_after, ← Location.start_after, Location.after_append]
    rfl
  rw [behind, hlocation, List.length_append, List.length_singleton]

theorem advance_behind {t read rest : Text} {c : Char} (h : t = read ++ c :: rest) :
    (behind read).advance t = behind (read ++ [c]) := by
  rw [advance, peek_behind h, behind_concat]
  rfl

theorem advance_of_peek_none {t : Text} {c : Cursor} (h : c.peek t = none) : c.advance t = c := by
  rw [advance, h]

theorem position_advance {t : Text} {c : Cursor} {char : Char} (h : c.peek t = some char) :
    (c.advance t).position = c.position + 1 := by
  rw [advance, h]

theorem position_le_advance (t : Text) (c : Cursor) : c.position ≤ (c.advance t).position := by
  cases h : c.peek t with
  | none => rw [advance_of_peek_none h]
  | some char =>
    rw [position_advance h]
    omega

end Cursor

namespace Stepping

structure OpenBody where
  name : Option Text
  opener : Location
  start : Nat
  /-- How many braces are open, that of the block included. -/
  depth : Nat

/-- The block with its body; nothing is kept of a block without a name. -/
def OpenBody.close (b : OpenBody) (body : Text) : Option Block := b.name.map fun name => ⟨name, body⟩

inductive Reading
  | code
  | slash (place : Location)
  | lineComment
  | blockComment (place : Location)
  | star
  | quoted (place : Location)
  | backslash (place : Location)

structure Call where
  /-- Names do not reach back over this index. -/
  segment : Nat
  found : List Block
  body : Option OpenBody
  reading : Reading

namespace Call

def start : Call := ⟨0, [], none, .code⟩

def switch (reading : Reading) (call : Call) : Call := { call with reading }

/-- Goes back to code behind a comment or string. Outside every block no name reaches back over
it. -/
def resume (here : Cursor) (call : Call) : Call :=
  { call with
    segment := if call.body.isNone then here.position else call.segment
    reading := .code }

end Call

structure State where
  cursor : Cursor
  call : Option Call
  outcomes : List (Except ScanError (List Block))

namespace State

def start : State := ⟨.start, none, []⟩

def proceed (s : State) (here : Cursor) (call : Call) : State :=
  { s with cursor := here, call := some call }

def finish (s : State) (here : Cursor) (outcome : Except ScanError (List Block)) : State :=
  ⟨here, none, s.outcomes ++ [outcome]⟩

end State

def literal? (t : Text) (here : Cursor) : Option Reading :=
  match here.peek t with
  | some '/' =>
    if here.peekNext t = some '*' ∨ here.peekNext t = some '/' then some (.slash here.location)
    else none
  | some '"' => some (.quoted here.location)
  | _ => none

def stepOutside (t : Text) (s : State) (call : Call) : Option State :=
  let next := s.cursor.advance t
  match literal? t s.cursor with
  | some reading => some (s.proceed next (call.switch reading))
  | none =>
    match s.cursor.peek t with
    | none => some (s.finish s.cursor (.ok call.found))
    | some '{' =>
      (nameAt? t call.segment s.cursor.position).map fun name =>
        s.proceed next { call with body := some ⟨name, s.cursor.location, next.position, 1⟩ }
    | some _ => some (s.proceed next call)

def stepInside (t : Text) (s : State) (call : Call) (b : OpenBody) : Option State :=
  let next := s.cursor.advance t
  match literal? t s.cursor with
  | some reading => some (s.proceed next (call.switch reading))
  | none =>
    match s.cursor.peek t with
    | none => some (s.finish s.cursor (.error ⟨.openBlock, b.opener⟩))
    | some '{' =>
      some (s.proceed next { call with body := some { b with depth := b.depth + 1 } })
    | some '}' =>
      (sub? b.depth 1).bind fun depth =>
        if depth = 0 then
          (slice? t b.start s.cursor.position).map fun body =>
            s.proceed next { call with
              segment := next.position
              found := call.found ++ (b.close body).toList
              body := none }
        else some (s.proceed next { call with body := some { b with depth } })
    | some _ => some (s.proceed next call)

/-- Between two calls the next one begins. In a call at most one character is read. -/
def step (t : Text) (s : State) : Option State :=
  let here := s.cursor
  let next := here.advance t
  match s.call with
  | none => some (s.proceed here .start)
  | some call =>
    match call.reading with
    | .code =>
      match call.body with
      | none => stepOutside t s call
      | some b => stepInside t s call b
    | .slash place =>
      some (s.proceed next
        (call.switch (if here.peek t = some '/' then .lineComment else .blockComment place)))
    | .lineComment =>
      match here.peek t with
      | none | some '\n' => some (s.proceed next (call.resume next))
      | some _ => some (s.proceed next call)
    | .blockComment place =>
      match here.peek t with
      | none => some (s.finish here (.error ⟨.openComment, place⟩))
      | some c =>
        some (s.proceed next
          (if c = '*' ∧ here.peekNext t = some '/' then call.switch .star else call))
    | .star => some (s.proceed next (call.resume next))
    | .quoted place =>
      match here.peek t with
      | none | some '\n' => some (s.finish next (.error ⟨.openString, place⟩))
      | some '"' => some (s.proceed next (call.resume next))
      | some '\\' => some (s.proceed next (call.switch (.backslash place)))
      | some _ => some (s.proceed next call)
    | .backslash place => some (s.proceed next (call.switch (.quoted place)))

inductive Loop
  | outside
  | inside
  | lineComment
  | blockComment
  | quoted
deriving DecidableEq

/-- The loop at the head of which the machine stands, about to see whether a character is left. -/
def State.loop? (s : State) : Option Loop :=
  s.call.bind fun call =>
    match call.reading with
    | .code => some (if call.body.isNone then .outside else .inside)
    | .lineComment => some .lineComment
    | .blockComment _ => some .blockComment
    | .quoted _ => some .quoted
    | _ => none

end Stepping

end DatalogDoc
