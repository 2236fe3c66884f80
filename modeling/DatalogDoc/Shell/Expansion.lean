import DatalogDoc.Shell.Arithmetic
import DatalogDoc.Shell.Glob
import DatalogDoc.Shell.Session

/-!
# Expansion of words

Parameters, outputs of commands and arithmetic are put in their places; what came unquoted is split
into fields and taken for patterns of file names.

No string of a shell holds the character zero. A quoted one marks a place where quotes stood, so that
a field can be empty and yet be there; an unquoted one parts two arguments.
-/

namespace DatalogDoc.Shell

namespace Glyph

def mark : Glyph := ⟨'\x00', true⟩

def parting : Glyph := ⟨'\x00', false⟩

def ofText (quoted : Bool) (t : Text) : List Glyph := t.map fun c => ⟨c, quoted⟩

def text (gs : List Glyph) : Text := (gs.map Glyph.char).filter (· ≠ '\x00')

end Glyph

inductive Splitting
  | never
  | atSeparators
  | atPartings
deriving DecidableEq

structure Segment where
  glyphs : List Glyph
  splitting : Splitting := .never

namespace Segment

structure State where
  fields : List (List Glyph) := []
  current : List Glyph := []
  afterBlank : Bool := false
  limit : Option Nat := none
  /-- Where the last field ends if nothing but separators follows. -/
  cut : Option Nat := none
  forced : Bool := false

def isDefaultBlank (c : Char) : Bool := c = ' ' || c = '\t' || c = '\n' || c = '\x00'

/-- Takes one glyph of a part that may be split. Blanks part fields in any number; another separator,
with the blanks around it, ends one field. -/
def State.step (separators : Text) (onlyPartings : Bool) (s : State) (g : Glyph) : State :=
  let isSeparator := g = Glyph.parting || (!onlyPartings && separators.contains g.char)
  let isBlank := isSeparator && isDefaultBlank g.char
  if s.limit = some 0 then
    let cut := if isBlank then some (s.cut.getD s.current.length)
      else if isSeparator && s.afterBlank then s.cut
      else none
    { s with current := g :: s.current, cut, afterBlank := s.afterBlank && isBlank }
  else if s.afterBlank then
    if isBlank then s
    else if isSeparator then { s with afterBlank := false }
    else { s with current := [g], afterBlank := false }
  else if !isSeparator then { s with current := g :: s.current }
  else
    let blank := isBlank && !onlyPartings
    if s.current.isEmpty && blank then s
    else if s.limit = some 1 then
      { s with
        limit := some 0, cut := some s.current.length, current := g :: s.current
        afterBlank := blank }
    else
      { s with
        fields := s.fields ++ [s.current.reverse], current := [], afterBlank := blank
        limit := s.limit.map (· - 1) }

def State.take (separators : Text) (s : State) (segment : Segment) : State :=
  match segment.splitting with
  | .never => { s with current := segment.glyphs.reverse ++ s.current }
  | .atSeparators =>
    { segment.glyphs.foldl (State.step separators false) { s with afterBlank := false } with
      forced := false }
  | .atPartings =>
    { segment.glyphs.foldl (State.step separators true) { s with afterBlank := false } with
      forced := true }

def fields (separators : Text) (limit : Option Nat) (segments : List Segment) : List (List Glyph) :=
  let s := segments.foldl (State.take separators) { limit }
  let current := s.current.reverse
  let current := match s.cut with
    | some n => current.take n
    | none => current
  if current.isEmpty && !s.forced then s.fields else s.fields ++ [current]

def all (segments : List Segment) : List Glyph := segments.flatMap Segment.glyphs

def text (segments : List Segment) : Text := Glyph.text (all segments)

end Segment

/-! Names of files. -/

namespace Glob

def parts (gs : List Glyph) : List (List Glyph) :=
  gs.foldr
    (fun g parts =>
      if g.char = '/' then [] :: parts
      else match parts with
        | part :: rest => (g :: part) :: rest
        | [] => [[g]])
    [[]]

def hasMeta (gs : List Glyph) : Bool := gs.any fun g => g.is '*' || g.is '?' || g.is '['

def insertSorted (t : Text) : List Text → List Text
  | [] => [t]
  | u :: us => if t < u then t :: u :: us else u :: insertSorted t us

def sort (ts : List Text) : List Text := ts.foldl (fun sorted t => insertSorted t sorted) []

/-- The names that a pattern stands for below a path written so far. -/
def search (files : Files) : Text → List (List Glyph) → List Text
  | written, [] => [written]
  | written, part :: rest =>
    let isLast := rest.isEmpty
    let goOn (name : Text) : List Text :=
      let path := written ++ name
      if isLast then
        if path.isEmpty || (files.find (Octets.toText path)).isOk then [path] else []
      else search files (path ++ ['/']) rest
    let item := Glob.ofGlyphs part
    if item.isPlain then goOn item.literal
    else
      let here := if written.isEmpty then ['.'] else written
      match files.find (Octets.toText here) with
      | .ok (directory, .directory) =>
        let names := (files.names directory).map Octets.ofText
        let names := if item.head?.any (fun | .char c => c = '.' | _ => false) then
            ['.'] :: ['.', '.'] :: names
          else names.filter fun n => n.head? ≠ some '.'
        (sort (names.filter item.fits)).flatMap goOn
      | _ => []

def names (files : Files) (field : List Glyph) : List Text :=
  let field := field.filter (· ≠ Glyph.mark)
  if hasMeta field then
    match search files [] (parts field) with
    | [] => [Glyph.text field]
    | found => sort found
  else [Glyph.text field]

end Glob

/-! Words. -/

inductive Purpose
  | fields
  | string
  | pattern
deriving DecidableEq

abbrev Capture := Script → Run Text

namespace Expansion

open Run

def isList (name : Text) : Bool := name = ['@'] || name = ['*']

def listValue (s : Session) (name : Text) (purpose : Purpose) (quoted : Bool) : List Glyph :=
  let arguments := s.arguments.map (Glyph.ofText quoted)
  if purpose = .fields && (!quoted || name = ['@']) then
    [Glyph.parting].intercalate arguments
  else
    let joint := match separators s with
      | c :: _ => [(⟨c, quoted⟩ : Glyph)]
      | [] => []
    joint.intercalate arguments

def value? (s : Session) (name : Text) (purpose : Purpose) (quoted : Bool) : Option (List Glyph) :=
  if isList name then
    if s.arguments.isEmpty then none else some (listValue s name purpose quoted)
  else (parameter? s name).map (Glyph.ofText quoted)

def segmentOf (name : Text) (purpose : Purpose) (quoted : Bool) (glyphs : List Glyph) : Segment :=
  let splitting :=
    if purpose ≠ .fields then .never
    else if !quoted then .atSeparators
    else if name = ['@'] then .atPartings
    else .never
  { glyphs, splitting }

def trim (atEnd longest : Bool) (pattern : Glob) (t : List Glyph) : List Glyph :=
  let lengths := List.range (t.length + 1)
  let fits (n : Nat) : Bool :=
    pattern.fits ((if atEnd then t.drop (t.length - n) else t.take n).map Glyph.char)
  match (if longest then lengths.reverse else lengths).find? fits with
  | some n => if atEnd then t.take (t.length - n) else t.drop n
  | none => t

def arithmeticFault (t : Text) : Arithmetic.Fault → Text
  | .expression why => "arithmetic expression: ".toList ++ why.toList ++ ": \"".toList ++ t ++ ['"']
  | .number n => "Illegal number: ".toList ++ n
  | .unset name => name ++ ": parameter not set".toList

def integerText (n : Int) : Text :=
  if n < 0 then '-' :: Nat.toDigits 10 n.natAbs else Nat.toDigits 10 n.natAbs

def arithmetic (t : Text) : Run Text := do
  let s ← get
  match Arithmetic.evaluate (fun name => .ok ((Run.value? s name).getD [])) t with
  | .error e => fail (arithmeticFault t e)
  | .ok (n, assigned) =>
    for (name, value) in assigned.reverse do
      assign name (integerText value)
    return integerText n

def tilde (s : Session) (t : Text) : Option (Text × Text) :=
  match t with
  | '~' :: rest =>
    if rest.isEmpty || rest.head? = some '/' || rest.head? = some ':' then
      (Run.value? s "HOME".toList).map (·, rest)
    else none
  | _ => none

/-- Replaces tildes in the unquoted text of an assignment, where they start the value or follow a
colon. -/
def tildes (s : Session) : Nat → Text → List Glyph
  | 0, t => Glyph.ofText false t
  | fuel + 1, t =>
    let (front, t) := match tilde s t with
      | some (home, rest) => (Glyph.ofText true home, rest)
      | none => ([], t)
    let part := t.takeWhile (· ≠ ':')
    match t.drop part.length with
    | [] => front ++ Glyph.ofText false part
    | _ :: rest => front ++ Glyph.ofText false (part ++ [':']) ++ tildes s fuel rest

structure Place where
  purpose : Purpose
  quoted : Bool := false
  breaks : Bool := false

def parameter (expand : Place → Word → Run (List Segment)) (place : Place) (name : Text) (use : Use)
    (quoted : Bool) : Run (List Segment) := do
  let s ← get
  let value := value? s name place.purpose quoted
  let wary (v : Option (List Glyph)) : Run (List Glyph) :=
    match v with
    | some v => return v
    | none =>
      if s.options.wary && !isList name then fail (name ++ ": parameter not set".toList)
      else return []
  let whole (v : List Glyph) : List Segment :=
    if name = ['@'] && quoted && place.purpose = .fields && s.arguments.isEmpty then []
    else [segmentOf name place.purpose quoted v]
  let isMissing (orEmpty : Bool) : Bool :=
    value.isNone || (orEmpty && value.any fun v => (Glyph.text v).isEmpty)
  let inner (word : Word) : Run (List Segment) := expand { place with quoted, breaks := true } word
  match use with
  | .malformed => fail "Bad substitution".toList
  | .value => return whole (← wary value)
  | .length =>
    let v ← wary (value? s name .string quoted)
    return [segmentOf [] place.purpose quoted
      (Glyph.ofText quoted (Nat.toDigits 10 (Glyph.text v).length))]
  | .fallback orEmpty word => if isMissing orEmpty then inner word else return whole (value.getD [])
  | .alternative orEmpty word => if isMissing orEmpty then return [] else inner word
  | .demand orEmpty word =>
    if isMissing orEmpty then
      let message ← expand { purpose := .string, quoted := true } word
      let message := if word.isEmpty then
          (if orEmpty then "parameter not set or null" else "parameter not set").toList
        else Segment.text message
      fail (name ++ ": ".toList ++ message)
    else return whole (value.getD [])
  | .assign orEmpty word =>
    if isMissing orEmpty then
      let t := Segment.text (← expand { purpose := .string } word)
      assignChecked name t
      return whole (Glyph.ofText quoted t)
    else return whole (value.getD [])
  | .trim atEnd longest pattern =>
    let v ← wary value
    let pattern ← expand { purpose := .pattern } pattern
    let pattern := Glob.ofGlyphs ((Segment.all pattern).filter (· ≠ Glyph.mark))
    return whole (trim atEnd longest pattern v)

def pieces (capture : Capture) : Nat → Place → Word → Run (List Segment)
  | 0, _, _ => return []
  | _ + 1, _, [] => return []
  | fuel + 1, place, p :: rest => do
    let next (front : List Segment) (rest : Word) : Run (List Segment) := do
      return front ++ (← pieces capture fuel place rest)
    let splitting (quoted : Bool) : Splitting :=
      if place.purpose = .fields && !quoted then .atSeparators else .never
    match p, rest with
    | .literal t, rest =>
      next [{
        glyphs := Glyph.ofText place.quoted t
        splitting := if place.breaks then splitting place.quoted else .never }] rest
    | .quoted [], .parameter ['@'] .value true :: .quoted [] :: rest =>
      next (← parameter (pieces capture fuel) place ['@'] .value true) rest
    | .quoted t, rest => next [{ glyphs := Glyph.mark :: Glyph.ofText true t }] rest
    | .parameter name use quoted, rest =>
      next (← parameter (pieces capture fuel) place name use (quoted || place.quoted)) rest
    | .output script quoted, rest =>
      let quoted := quoted || place.quoted
      let t ← capture script
      next [{ glyphs := Glyph.ofText quoted t, splitting := splitting quoted }] rest
    | .arithmetic expression quoted, rest =>
      let quoted := quoted || place.quoted
      let segments ← pieces capture fuel { purpose := .string, quoted := true } expression
      let t ← arithmetic (Segment.text segments)
      next [{ glyphs := Glyph.ofText quoted t, splitting := splitting quoted }] rest

def depth : Nat := 100000

def withTilde (s : Session) (word : Word) : Word :=
  match word with
  | .literal t :: rest =>
    match tilde s t with
    | some (home, after) =>
      if after.isEmpty && !rest.isEmpty then word else .quoted home :: .literal after :: rest
    | none => word
  | word => word

def fields (capture : Capture) (word : Word) : Run (List Text) := do
  let segments ← pieces capture depth { purpose := .fields } (withTilde (← get) word)
  let s ← get
  let fields := Segment.fields (separators s) none segments
  return if s.options.literal then fields.map Glyph.text
    else fields.flatMap (Glob.names s.world.files)

def string (capture : Capture) (word : Word) : Run Text := do
  return Segment.text (← pieces capture depth { purpose := .string } (withTilde (← get) word))

def assigned (capture : Capture) (word : Word) : Run Text := do
  let s ← get
  let word := word.flatMap fun
    | .literal t =>
      (tildes s t.length t).map fun g => if g.quoted then .quoted [g.char] else .literal [g.char]
    | p => [p]
  return Segment.text (← pieces capture depth { purpose := .string } (Word.join word))

def pattern (capture : Capture) (word : Word) : Run Glob := do
  let segments ← pieces capture depth { purpose := .pattern } (withTilde (← get) word)
  return Glob.ofGlyphs ((Segment.all segments).filter (· ≠ Glyph.mark))

end Expansion

end DatalogDoc.Shell
