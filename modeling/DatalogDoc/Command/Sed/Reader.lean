import DatalogDoc.Command.Sed.Escape
import DatalogDoc.Command.Sed.RegexReader
import DatalogDoc.Command.Sed.Script

/-!
# Reading scripts

A script comes in pieces, each of them read to its end before the next. Blocks may go on from piece
to piece, and so may a text whose last character is a backslash. A mistake is told with the number of
characters that were read before it was seen.
-/

namespace DatalogDoc.Command.Sed

inductive Opening
  | toRead (name : Text)
  | toWrite (name : Text)

structure Unfinished where
  selection : Selection
  operation : Text → Operation
  text : Text

structure Reader where
  extended : Bool := false
  sandboxed : Bool := false
  zero : Bool := false
  rest : Text := []
  position : Position := { source := .expression 0 }
  script : Script := {}
  blocks : List (Nat × Position) := []
  unfinished : Option Unfinished := none
  openings : List Opening := []
  quiet : Bool := false
  isFirst : Bool := true
  expressions : Nat := 0

abbrev Reading := ExceptT Fault (StateM Reader)

namespace Reading

def mistake {α : Type} (message : String) : Reading α := do
  throw (.mistake (← get).position message.toList)

/-! Characters. -/

def skip (n : Nat) : Reading Unit := modify fun r =>
  let lines := (r.rest.take n).count '\n'
  { r with
    rest := r.rest.drop n
    position := { r.position with
      place := r.position.place + min n r.rest.length, line := r.position.line + lines } }

def next : Reading (Option Char) := do
  let c := (← get).rest.head?
  skip 1
  return c

def back (c : Option Char) : Reading Unit := modify fun r =>
  match c with
  | none => r
  | some c =>
    { r with
      rest := c :: r.rest
      position := { r.position with
        place := r.position.place - 1
        line := if c = '\n' then r.position.line - 1 else r.position.line } }

def isBlank (c : Char) : Bool := c = ' ' || c = '\t'

def nextNonBlank : Reading (Option Char) := do
  skip ((← get).rest.takeWhile isBlank).length
  next

def number (c : Option Char) : Reading Nat := do
  back c
  let digits := (← get).rest.takeWhile Char.isDigit
  skip digits.length
  return decimalValue digits

def restOfLine : Reading Text := do
  let line := (← get).rest.takeWhile (· ≠ '\n')
  skip (line.length + 1)
  return line

def endCommand : Reading Unit := do
  match ← nextNonBlank with
  | none | some '\n' | some ';' => return
  | some '\x7d' => back (some '\x7d')
  | some '#' => back (some '#')
  | some _ => mistake "extra characters after command"

def label : Reading Text := do
  skip ((← get).rest.takeWhile isBlank).length
  let label := (← get).rest.takeWhile fun c => !isBlankChar c && c ≠ ';' && c ≠ '\x7d'
  skip label.length
  return label

/-! Patterns. -/

inductive SetState
  | plain
  | bracket
  | named (mark : Char)
  | marked (mark : Char)

def setBody : Nat → SetState → Reading (Option Text)
  | 0, _ => return none
  | fuel + 1, state => do
    let c ← next
    let goOn (c : Char) (state : SetState) : Reading (Option Text) := do
      return (← setBody fuel state).map (c :: ·)
    match c, state with
    | none, _ => return none
    | some '\n', _ =>
      back c
      return none
    | some ']', .plain | some ']', .bracket => return some [']']
    | some ']', .marked _ => goOn ']' .plain
    | some '[', .plain => goOn '[' .bracket
    | some c, .bracket =>
      goOn c (if c = '[' then .bracket else if c = '.' || c = ':' || c = '=' then .named c else .plain)
    | some c, .named mark => goOn c (if c = mark then .marked mark else .named mark)
    | some c, .marked mark => goOn c (.named mark)
    | some c, .plain => goOn c .plain

def characterSet : Reading (Option Text) := do
  let rest := (← get).rest
  let lead := match rest with
    | '^' :: ']' :: _ => ['^', ']']
    | '^' :: _ => ['^']
    | ']' :: _ => [']']
    | _ => []
  skip lead.length
  return (← setBody (rest.length + 1) .plain).map (lead ++ ·)

/-- Reads up to a delimiter, or gives nothing if the line ends before. A backslash before the
delimiter is dropped, and in a pattern a delimiter inside of a set is none. -/
def delimitedBody (delimiter : Char) (isPattern : Bool) : Nat → Reading (Option Text)
  | 0 => return none
  | fuel + 1 => do
    let goOn (t : Text) : Reading (Option Text) := do
      return (← delimitedBody delimiter isPattern fuel).map (t ++ ·)
    match ← next with
    | none => return none
    | some '\n' =>
      back (some '\n')
      return none
    | some c =>
      if c = delimiter then
        return some []
      else if c = '\\' then
        match ← next with
        | none => return none
        | some d =>
          if d = 'n' && isPattern then goOn ['\n']
          else if d = '\n' || (d = delimiter && (isPattern || d ≠ '&')) then goOn [d]
          else goOn ['\\', d]
      else if c = '[' && isPattern then
        match ← characterSet with
        | none => return none
        | some t => goOn ('[' :: t)
      else
        goOn [c]

def delimited (delimiter : Option Char) (isPattern : Bool) : Reading (Option Text) := do
  match delimiter with
  | none => return none
  | some c => delimitedBody c isPattern ((← get).rest.length + 1)

def resolve (inReplacement : Bool) (t : Text) : Reading Text :=
  match Escape.resolve inReplacement (t.length + 1) t with
  | none => mistake "recursive escaping after \\c not allowed"
  | some t => return t

/-- Makes a pattern of a text; an empty one stands for the pattern that was used last. `highest` is
the highest group that is asked for. -/
def pattern (text : Text) (folded multiline : Bool) (highest : Nat) : Reading (Option Pattern) := do
  if text.isEmpty then
    if folded || multiline then
      mistake "cannot specify modifiers on empty regexp"
    return none
  let r ← get
  let t ← resolve false text
  match Pattern.read { extended := r.extended, folded, multiline } t with
  | .error e => mistake e.message
  | .ok p =>
    if p.groups < highest then
      mistake ("invalid reference \\" ++ Nat.repr highest ++ " on \x60s' command's RHS")
    if confusesClass (t.length + 1) t then
      throw (.failure "character class syntax is [[:space:]], not [:space:]".toList)
    return some { p with multiline := multiline && !r.zero }

/-! Addresses. -/

def patternFlags : Nat → Bool → Bool → Reading (Bool × Bool)
  | 0, folded, multiline => return (folded, multiline)
  | fuel + 1, folded, multiline => do
    match ← nextNonBlank with
    | some 'I' => patternFlags fuel true multiline
    | some 'M' => patternFlags fuel folded true
    | c =>
      back c
      return (folded, multiline)

def address? (c : Option Char) : Reading (Option RangeEnd) := do
  match c with
  | some '/' => some <$> fitting c
  | some '\\' => some <$> fitting (← next)
  | some '$' => return some (.address .last)
  | some '+' => return some (.after (← number (← nextNonBlank)))
  | some '~' => return some (.multiple (← number (← nextNonBlank)))
  | some d =>
    if d.isDigit then
      let first ← number c
      let c ← nextNonBlank
      if c ≠ some '~' then
        back c
        return some (.address (.line first))
      let step ← number (← nextNonBlank)
      return some (.address (if step = 0 then .line first else .every first step))
    else return none
  | none => return none
where
  fitting (delimiter : Option Char) : Reading RangeEnd := do
    match ← delimited delimiter true with
    | none => mistake "unterminated address regex"
    | some text =>
      let (folded, multiline) ← patternFlags ((← get).rest.length + 1) false false
      return .address (.fitting (← pattern text folded multiline 0))

def selection (c : Option Char) : Reading (Selection × Option Char) := do
  let (start, stop, c) ← match ← address? c with
    | none => pure (none, none, c)
    | some (.after _) | some (.multiple _) =>
      mistake "invalid usage of +N or ~N as first address"
    | some (.address start) => do
      let c ← nextNonBlank
      let (stop, c) ← if c = some ',' then do
          match ← address? (← nextNonBlank) with
          | none => mistake "unexpected \x60,'"
          | some stop => pure (some stop, ← nextNonBlank)
        else pure (none, c)
      match start, stop with
      | .line 0, some (.address (.fitting _)) => pure ()
      | .line 0, _ => mistake "invalid usage of line address 0"
      | _, _ => pure ()
      pure (some start, stop, c)
  if c = some '!' then
    let c ← nextNonBlank
    if c = some '!' then
      mistake "multiple \x60!'s"
    return ({ start, stop, negated := true }, c)
  else
    return ({ start, stop }, c)

/-! Substitutions. -/

structure Pieces where
  done : List Piece := []
  text : Text := []
  casing : Casing := .same
  first : Option Casing := none
  highest : Nat := 0

namespace Pieces

def close (p : Pieces) (group : Option Nat) : Pieces :=
  { p with
    done := { text := p.text.reverse, group, casing := p.casing, first := p.first } :: p.done
    text := [], first := none, highest := max p.highest (group.getD 0) }

def escaped (p : Pieces) (c : Char) : Pieces :=
  match c with
  | 'L' => { p.close none with casing := .lower }
  | 'U' => { p.close none with casing := .upper }
  | 'E' => { p.close none with casing := .same }
  | 'l' => { p.close none with first := some .lower }
  | 'u' => { p.close none with first := some .upper }
  | c =>
    if c.isDigit then p.close (some (c.toNat - 48))
    else { p with text := c :: p.text }.close none

def read (p : Pieces) : Text → Pieces
  | '\\' :: c :: t => (p.escaped c).read t
  | '&' :: t => (p.close (some 0)).read t
  | c :: t => { p with text := c :: p.text }.read t
  | [] => if p.text.isEmpty then p else p.close none

end Pieces

def refuseIfSandboxed : Reading Unit := do
  if (← get).sandboxed then
    mistake "e/r/w commands disabled in sandbox mode"

def fileName : Reading Text := do
  skip ((← get).rest.takeWhile isBlank).length
  let name := (← get).rest.takeWhile (· ≠ '\n')
  skip (name.length + 1)
  if name.isEmpty then
    mistake "missing filename in r/R/w/W commands"
  return name

def sink : Reading Sink := do
  let name ← fileName
  match String.ofList name with
  | "/dev/stdout" => return .stdout
  | "/dev/stderr" => return .stderr
  | _ =>
    modify fun r => { r with openings := .toWrite name :: r.openings }
    return .file name

structure SubstitutionFlags where
  folded : Bool := false
  multiline : Bool := false
  first : Option Nat := none
  all : Bool := false
  prints : Option Bool := none
  runs : Bool := false
  sink : Option Sink := none

def substitutionFlags : Nat → SubstitutionFlags → Reading SubstitutionFlags
  | 0, f => return f
  | fuel + 1, f => do
    let c ← next
    match c with
    | none | some '\n' | some ';' => return f
    | some '\x7d' | some '#' =>
      back c
      return f
    | some ' ' => substitutionFlags fuel f
    | some 'i' | some 'I' => substitutionFlags fuel { f with folded := true }
    | some 'm' | some 'M' => substitutionFlags fuel { f with multiline := true }
    | some 'e' =>
      refuseIfSandboxed
      substitutionFlags fuel { f with runs := true }
    | some 'p' =>
      if f.prints.isSome then
        mistake "multiple \x60p' options to \x60s' command"
      substitutionFlags fuel { f with prints := some f.runs }
    | some 'g' =>
      if f.all then
        mistake "multiple \x60g' options to \x60s' command"
      substitutionFlags fuel { f with all := true }
    | some 'w' =>
      refuseIfSandboxed
      return { f with sink := some (← sink) }
    | some '\r' =>
      if (← next) = some '\n' then return f else mistake "unknown option to \x60s'"
    | some d =>
      if d.isDigit then
        if f.first.isSome then
          mistake "multiple number options to \x60s' command"
        let n ← number c
        if n = 0 then
          mistake "number option to \x60s' command may not be zero"
        substitutionFlags fuel { f with first := some n }
      else mistake "unknown option to \x60s'"

def substitution : Reading Operation := do
  let delimiter ← next
  let unterminated {α : Type} : Reading α := mistake "unterminated \x60s' command"
  match ← delimited delimiter true with
  | none => unterminated
  | some text =>
    match ← delimited delimiter false with
    | none => unterminated
    | some replacement =>
      let pieces := Pieces.read {} (← resolve true replacement)
      let f ← substitutionFlags ((← get).rest.length + 1) {}
      let p ← pattern text f.folded f.multiline pieces.highest
      return .substitute {
        pattern := p, pieces := pieces.done.reverse, highest := pieces.highest
        first := f.first.getD 1, all := f.all, runs := f.runs, sink := f.sink
        prints := match f.prints with
          | none => (false, false)
          | some late => (!late, late) }

def letters : Reading Operation := do
  let delimiter ← next
  let unterminated {α : Type} : Reading α := mistake "unterminated \x60y' command"
  match ← delimited delimiter false with
  | none => unterminated
  | some source =>
    let source ← resolve false source
    match ← delimited delimiter false with
    | none => unterminated
    | some target =>
      let source := Escape.strip source
      let target := Escape.strip (← resolve false target)
      if source.length ≠ target.length then
        mistake "strings for \x60y' command are different lengths"
      endCommand
      return .exchangeLetters (source.zip target).reverse

/-! Commands. -/

def push (selection : Selection) (operation : Operation) : Reading Unit := modify fun r =>
  { r with script := { r.script with commands := r.script.commands.push ⟨selection, operation⟩ } }

/-- Reads the lines of a text and whether it ended; a newline stands behind what was read. -/
def textLines : Nat → Reading (Text × Bool)
  | 0 => return ([], true)
  | fuel + 1 => do
    match ← next with
    | none | some '\n' => return (['\n'], true)
    | some '\\' =>
      match ← next with
      | none => return (['\n'], false)
      | some c =>
        let (t, ended) ← textLines fuel
        return ('\\' :: c :: t, ended)
    | some c =>
      let (t, ended) ← textLines fuel
      return (c :: t, ended)

def finishText (u : Unfinished) : Reading Unit := do
  push u.selection (u.operation (Escape.strip (← resolve false u.text)))

def goOnText (u : Unfinished) : Reading Unit := do
  let (t, ended) ← textLines ((← get).rest.length + 1)
  let u := { u with text := u.text ++ t }
  if ended then
    modify fun r => { r with unfinished := none }
    finishText u
  else
    modify fun r => { r with unfinished := some u }

def textAfter (c : Option Char) (selection : Selection) (operation : Text → Operation) :
    Reading Unit := do
  let u : Unfinished := { selection, operation, text := [] }
  if c = some '\\' then
    let d ← next
    if d.isNone then
      modify fun r => { r with unfinished := some u }
    else
      if d ≠ some '\n' then back d
      goOnText u
  else
    back c
    goOnText u

/-- Whether a version comes after another. Digits in a row are compared as numbers. -/
def isNewer : Nat → Text → Text → Bool
  | 0, _, _ => false
  | _ + 1, [], _ => false
  | _ + 1, _ :: _, [] => true
  | fuel + 1, c :: t, d :: u =>
    if c.isDigit && d.isDigit then
      let (m, t) := readDigits 10 (t.length + 1) 0 (c :: t)
      let (n, u) := readDigits 10 (u.length + 1) 0 (d :: u)
      if m = n then isNewer fuel t u else n < m
    else if c = d then isNewer fuel t u
    else d < c

def version : Text := "4.9".toList

/-- Reads a comment. The first letter of one that starts the script may ask to print nothing by
default. -/
def comment : Reading Unit := do
  let isAtStart := (← get).isFirst && (← get).position.place = 1
  let line ← restOfLine
  if isAtStart && line.head? = some 'n' then
    modify fun r => { r with quiet := true }

def command (s : Selection) (letter : Option Char) : Reading Unit := do
  let simple (operation : Operation) : Reading Unit := do
    endCommand
    push s operation
  let numbered (operation : Option Nat → Operation) : Reading Unit := do
    let c ← nextNonBlank
    let n ← if c.any Char.isDigit then some <$> number c
      else do
        back c
        pure none
    endCommand
    push s (operation n)
  let one : Reading Unit := do
    if s.stop.isSome then
      mistake "command only uses one address"
  let text (operation : Text → Operation) : Reading Unit := do
    let c ← nextNonBlank
    if c.isNone then
      mistake "expected \\ after \x60a', \x60c' or \x60i'"
    textAfter c s operation
  match letter with
  | none => mistake "missing command"
  | some '#' =>
    if s.start.isSome then
      mistake "comments don't accept any addresses"
    comment
  | some 'v' =>
    let wanted ← label
    if isNewer (wanted.length + 1) wanted version then
      mistake "expected newer version of sed"
  | some '\x7b' =>
    modify fun r => { r with blocks := (r.script.commands.size, r.position) :: r.blocks }
    push s (.block 0)
  | some '\x7d' =>
    match (← get).blocks with
    | [] => mistake "unexpected \x60\x7d'"
    | (start, _) :: blocks =>
      if s.start.isSome then
        mistake "\x60\x7d' doesn't want any addresses"
      endCommand
      modify fun r =>
        let commands := r.script.commands.modify start fun c =>
          { c with operation := .block r.script.commands.size }
        { r with blocks, script := { r.script with commands } }
      push s .rest
  | some 'e' =>
    refuseIfSandboxed
    let c ← nextNonBlank
    if c.isNone || c = some '\n' then push s (.run [])
    else textAfter c s fun t => .run t.dropLast
  | some 'a' => text .append
  | some 'i' => text .insert
  | some 'c' => text .change
  | some ':' =>
    if s.start.isSome then
      mistake ": doesn't want any addresses"
    let label ← label
    if label.isEmpty then
      mistake "\":\" lacks a label"
    modify fun r =>
      { r with script := { r.script with labels := (label, r.script.commands.size) :: r.script.labels } }
    push s .rest
  | some 'b' => push s (.jump (← label))
  | some 't' => push s (.jumpIfReplaced (← label))
  | some 'T' => push s (.jumpUnlessReplaced (← label))
  | some 'q' =>
    one
    numbered fun n => .quit (n.getD 0)
  | some 'Q' =>
    one
    numbered fun n => .leave (n.getD 0)
  | some 'l' => numbered .list
  | some 'L' => numbered fun _ => .unknown 'L'
  | some '=' => simple .number
  | some 'd' => simple .delete
  | some 'D' => simple .deleteFirst
  | some 'F' => simple .fileName
  | some 'g' => simple .get
  | some 'G' => simple .getToo
  | some 'h' => simple .hold
  | some 'H' => simple .holdToo
  | some 'n' => simple .next
  | some 'N' => simple .nextToo
  | some 'p' => simple .print
  | some 'P' => simple .printFirst
  | some 'x' => simple .swap
  | some 'z' => simple .clear
  | some 'r' =>
    refuseIfSandboxed
    push s (.readFile (← fileName))
  | some 'R' =>
    refuseIfSandboxed
    let name ← fileName
    modify fun r => { r with openings := .toRead name :: r.openings }
    push s (.readLine name)
  | some 'w' =>
    refuseIfSandboxed
    push s (.write (← sink))
  | some 'W' =>
    refuseIfSandboxed
    push s (.writeFirst (← sink))
  | some 's' => push s (← substitution)
  | some 'y' => push s (← letters)
  | some c => mistake ("unknown command: \x60" ++ String.singleton c ++ "'")

def commands : Nat → Reading Unit
  | 0 => return
  | fuel + 1 => do
    skip ((← get).rest.takeWhile fun c => c = ';' || isBlankChar c).length
    match ← next with
    | none => return
    | c =>
      let (s, c) ← selection c
      command s c
      commands fuel

/-- Reads a piece. What runs later is told to be at the start of the piece that was read last. -/
def piece (position : Position) (text : Text) : Reading Unit := do
  modify fun r => { r with rest := text, position, openings := [] }
  if let some u := (← get).unfinished then
    goOnText u
  commands (text.length + 1)
  modify fun r => { r with isFirst := false, position := { r.position with place := 0 } }

def expression (text : Text) : Reading Unit := do
  let n := (← get).expressions + 1
  modify fun r => { r with expressions := n }
  piece { source := .expression n } text

def file (name content : Text) : Reading Unit :=
  piece { source := .file name, line := 1 } content

def finish : Reading Script := do
  if let some u := (← get).unfinished then
    finishText u
  if let (_, position) :: _ := (← get).blocks then
    throw (.mistake { position with place := 0 } "unmatched \x60\x7b'".toList)
  let script := (← get).script
  match script.missing? with
  | some label => throw (.failure ("can't find label for jump to \x60".toList ++ label ++ ['\'']))
  | none => return script

end Reading

end DatalogDoc.Command.Sed
