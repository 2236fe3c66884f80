import DatalogDoc.Command.Sed.Reader
import DatalogDoc.Host.World

/-!
# Running scripts

The editor goes through its input line by line. Each line is put into the pattern space, the commands
of the script are run on it, and it is printed. A second space holds text from line to line. A line
that has no newline behind it is printed without one, and the newline is made up for when something is
printed later.
-/

namespace DatalogDoc.Command.Sed

structure Space where
  text : Text := []
  ended : Bool := true

inductive RangeState
  | waiting
  | active (stop : Option Nat)
  | closed
deriving DecidableEq

inductive Queued
  | text (t : Text)
  | file (name : Text)

abbrev Input := Except OsError Text

structure Setting where
  process : Process
  script : Script
  quiet : Bool := false
  separate : Bool := false
  /-- Whether files take on what is made of them, and what the names of their copies end with. -/
  inPlace : Option Text := none
  width : Nat := 70
  zero : Bool := false
  /-- Whether only what is needed is read and what is written arrives at once. -/
  unbuffered : Bool := false
  strict : Bool := false
  position : Position
  shell : Text → System Text

structure Editor where
  space : Space := {}
  held : Space := {}
  /-- Whether a newline stands behind the text that was in the pattern space before a command or a
  substitution changed all of it. -/
  spareEnded : Bool := true
  line : Nat := 0
  replaced : Bool := false
  queue : List Queued := []
  ranges : Array RangeState := #[]
  pattern : Option (Pattern × Bool) := none
  files : List Text := []
  name : Text := ['-']
  input : Option Input := none
  /-- Whether the next file starts anew. -/
  startsAnew : Bool := false
  unreadable : Bool := false
  written : List (Sink × List Text) := []
  missing : List Sink := []
  channels : List (Text × Nat) := []
  /-- The files that lines are taken from: where each is open, and what was read of it. -/
  sources : List (Text × Nat) := []
  contents : List (Text × Text × Text) := []

inductive Stop
  | quit (code : UInt8)
  | fault (f : Fault)

abbrev Edit := ExceptT Stop (StateT Editor System)

inductive Flow
  | goTo (place : Nat)
  | print
  | drop

namespace Edit

variable (s : Setting)

def fail {α : Type} (message : Text) : Edit α := throw (.fault (.failure message))

def mistake {α : Type} (message : String) : Edit α :=
  throw (.fault (.mistake s.position message.toList))

def newline : Char := if s.zero then '\x00' else '\n'

/-! Printing. -/

def emit (sink : Sink) (t : Text) : Edit Unit := do
  let sink := if sink = .result && s.inPlace.isNone then .stdout else sink
  let e ← get
  match sink, s.unbuffered with
  | .stderr, _ =>
    let _ ← (s.process.write 2 t : System _)
  | .file name, true =>
    if let some i := e.channels.lookup name then
      let _ ← (World.write i (Octets.toBytes t) : System _)
  | _, _ =>
    let others := e.written.filter (·.1 ≠ sink)
    set { e with written := (sink, t :: (e.written.lookup sink).getD []) :: others }

def endLine (sink : Sink) : Edit Unit := do
  let e ← get
  if e.missing.contains sink then
    set { e with missing := e.missing.filter (· ≠ sink) }
    emit s sink [newline s]

def printLine (sink : Sink) (l : Space) : Edit Unit := do
  endLine s sink
  emit s sink (if l.ended then l.text ++ [newline s] else l.text)
  unless l.ended do
    modify fun e => { e with missing := sink :: e.missing }

def printText (t : Text) : Edit Unit := do
  endLine s .result
  emit s .result t

def printOwn (t : Text) : Edit Unit :=
  printText s (if t.isEmpty then [] else t.dropLast ++ [newline s])

def wholeFile (name : Text) : Edit Text := do
  let found : System (Except OsError (Except OsError Bytes)) := do
    if name = "/dev/stdin".toList then
      return .ok (← s.process.readInput)
    match ← Process.openFile s.process.descriptors name .read with
    | .error e => return .error e
    | .ok i => return .ok (← World.readAll i)
  match ← (found : System _) with
  | .error _ => return []
  | .ok (.error e) => fail ("read error on ".toList ++ name ++ ": ".toList ++ e.description)
  | .ok (.ok bytes) => return Octets.ofBytes bytes

def flushQueue : Edit Unit := do
  let queue := (← get).queue.reverse
  modify fun e => { e with queue := [] }
  for item in queue do
    endLine s .result
    match item with
    | .text t => emit s .result t
    | .file name => emit s .result (← wholeFile s name)

def enqueue (item : Queued) : Edit Unit := modify fun e => { e with queue := item :: e.queue }

/-! Input. -/

def copyName (suffix name : Text) : Text :=
  let base := ((name.splitOn '/').getLast?).getD []
  let directory := name.take (name.length - base.length)
  let copy := if suffix.contains '*' then suffix.flatMap fun c => if c = '*' then base else [c]
    else base ++ suffix
  if copy.contains '/' then copy else directory ++ copy

def replaceFile (suffix : Text) : Edit Unit := do
  let e ← get
  let content := ((e.written.lookup .result).getD []).reverse.flatten
  set { e with
    written := e.written.filter (·.1 ≠ Sink.result), missing := e.missing.filter (· ≠ Sink.result) }
  let w ← (MonadState.get : System World)
  if let .ok (path, .regular old executable) := w.files.find (Octets.toText e.name) then
    let files := w.files.put path (.regular (Octets.toBytes content) executable)
    if suffix.isEmpty then
      (MonadState.set { w with files } : System Unit)
    else
      match files.create (Octets.toText (copyName suffix e.name)) false with
      | .error reason => fail ("cannot rename ".toList ++ e.name ++ ": ".toList ++ reason.description)
      | .ok (copy, files) =>
        (MonadState.set { w with files := files.put copy (.regular old executable) } : System Unit)

def closeInput : Edit Unit := do
  if (← get).input.isSome then
    modify fun e => { e with input := none, startsAnew := s.separate }
    if let some suffix := s.inPlace then
      replaceFile suffix

def openInput (name : Text) : Edit Unit := do
  modify fun e => { e with name }
  let opened : Except OsError (Option Node × Input) ← (do
      if name = ['-'] && s.inPlace.isNone then
        let content ← s.process.readInput
        return .ok (none, content.map Octets.ofBytes)
      match ← Process.openFile s.process.descriptors name .read with
      | .error e => return .error e
      | .ok i =>
        let node := ((← get).files.find (Octets.toText name)).toOption.map (·.2)
        return .ok (node, (← World.readAll i).map Octets.ofBytes) : System _)
  match opened with
  | .error e =>
    (s.process.complain (s.process.name ++ ": can't read ".toList ++ name ++ ": ".toList
      ++ e.description) : System Unit)
    modify fun e => { e with unreadable := true }
  | .ok (node, input) =>
    if s.inPlace.isSome then
      match node with
      | some (.regular ..) => pure ()
      | _ => fail ("couldn't edit ".toList ++ name ++ ": not a regular file".toList)
    modify fun e => { e with input := some input }

def skipToData : Nat → Edit Bool
  | 0 => return false
  | fuel + 1 => do
    closeInput s
    match (← get).files with
    | [] => return false
    | name :: files =>
      modify fun e => { e with files }
      openInput s name
      match (← get).input with
      | some (.ok (_ :: _)) => return true
      | _ => skipToData fuel

def isLast : Edit Bool := do
  let e ← get
  match e.input with
  | some (.ok (_ :: _)) => return false
  | _ => if s.separate then return true else return !(← skipToData s (e.files.length + 1))

def startAnew : Edit Unit := do
  if (← get).startsAnew then
    modify fun e => { e with
      line := 0, startsAnew := false, held := {}
      ranges := s.script.commands.map fun c => match c.selection.start with
        | some (.line 0) => .active none
        | _ => .waiting
      contents := e.contents.map fun (name, whole, _) => (name, whole, whole) }

def findInput : Nat → Edit Bool
  | 0 => return false
  | fuel + 1 => do
    let e ← get
    match e.input with
    | some (.ok (_ :: _)) => return true
    | some (.ok []) =>
      closeInput s
      findInput fuel
    | some (.error reason) =>
      let name := if e.name = ['-'] then "stdin".toList else e.name
      fail ("read error on ".toList ++ name ++ ": ".toList ++ reason.description)
    | none =>
      match e.files with
      | [] => return false
      | name :: files =>
        startAnew s
        modify fun e => { e with files }
        openInput s name
        findInput fuel

def takeLine (t : Text) : Space × Text :=
  let line := t.takeWhile (· ≠ newline s)
  match t.drop line.length with
  | [] => (⟨line, false⟩, [])
  | _ :: rest => (⟨line, true⟩, rest)

def readLine (keep : Bool) : Edit Bool := do
  flushQueue s
  modify fun e => { e with replaced := false }
  unless ← findInput s (2 * (← get).files.length + 3) do
    return false
  modify fun e =>
    match e.input with
    | some (.ok t) =>
      let (l, rest) := takeLine s t
      let text := if keep then e.space.text ++ newline s :: l.text else l.text
      { e with space := ⟨text, l.ended⟩, input := some (.ok rest), line := e.line + 1 }
    | _ => e
  return true

/-! Lines that commands are for. -/

def usePattern (p : Option Pattern) (isAddress : Bool) : Edit Pattern := do
  match p, (← get).pattern with
  | some p, _ =>
    modify fun e => { e with pattern := some (p, isAddress) }
    return p
  | none, some (p, _) => return p
  | none, none => mistake s "no previous regular expression"

def hits (a : Address) : Edit Bool := do
  let e ← get
  match a with
  | .line n => return e.line = n
  | .every first step => return first ≤ e.line && (e.line - first) % step = 0
  | .last => isLast s
  | .fitting p =>
    let p ← usePattern s p true
    return (p.find? e.space.text.toArray 0).isSome

def setRange (i : Nat) (state : RangeState) : Edit Unit :=
  modify fun e => { e with ranges := e.ranges.setIfInBounds i state }

def startRange (i : Nat) (start : Address) (stop : RangeEnd) (wasClosed : Bool) : Edit Bool := do
  let line := (← get).line
  let starts ← match start with
    | .line n => pure (!wasClosed && n ≤ line)
    | a => hits s a
  unless starts do
    return false
  match stop with
  | .address (.line n) =>
    if n ≤ line then
      setRange i .closed
      match start with
      | .line first => return line ≤ n || line = first
      | _ => return true
    else
      setRange i (.active none)
      return true
  | .address (.fitting _) =>
    setRange i (.active none)
    return true
  | .address a =>
    setRange i (if ← hits s a then .closed else .active none)
    return true
  | .after n =>
    setRange i (if n = 0 then .closed else .active (some (line + n)))
    return true
  | .multiple n =>
    setRange i (if n = 0 then .closed else .active (some ((line / n + 1) * n)))
    return true

def goOnRange (i : Nat) (stop : RangeEnd) (known : Option Nat) : Edit Bool := do
  let line := (← get).line
  match known, stop with
  | some n, _ =>
    if n ≤ line then setRange i .closed
    return true
  | none, .address (.line n) =>
    if n ≤ line then setRange i .closed
    return line ≤ n
  | none, .address a =>
    if ← hits s a then setRange i .closed
    return true
  | none, _ => return true

def selects (i : Nat) (selection : Selection) : Edit Bool := do
  match selection.start, selection.stop with
  | none, _ => return true
  | some a, none => hits s a
  | some start, some stop =>
    match (← get).ranges[i]? with
    | some (.active known) => goOnRange s i stop known
    | state => startRange s i start stop (state = some .closed)

/-! Substitutions. -/

def cased (casing : Casing) (first : Option Casing) : Text → Text
  | [] => []
  | c :: t => (first.getD casing).apply c :: t.map casing.apply

/-- Puts pieces together for a match. A wish for the first letter that met an empty group is left to
the next piece. -/
def fill (text : Array Char) (start : Nat) (fit : Fit) : Option Casing → List Piece → Text
  | _, [] => []
  | left, p :: pieces =>
    let first := p.first <|> left
    let front := cased p.casing first p.text
    let afterFront := if p.text.isEmpty then first else none
    match p.group with
    | none => front ++ fill text start fit none pieces
    | some n =>
      let span := if n = 0 then some (start, fit.place) else fit.groups.lookup n
      let found := match span with
        | none => []
        | some (i, j) => (text.extract i j).toList
      if found.isEmpty then
        front ++ fill text start fit (if p.first.isSome then afterFront else none) pieces
      else
        front ++ cased p.casing afterFront found ++ fill text start fit none pieces

/-- Replaces matches from a place on, with so many behind. A match of nothing right behind another
match, at `behind`, does not count. -/
def replaceFrom (sub : Substitution) (p : Pattern) (text : Array Char) :
    Nat → Nat → Nat → Option Nat → Text × Bool
  | 0, start, _, _ => ((text.extract start text.size).toList, false)
  | fuel + 1, start, count, behind =>
    let copy (i j : Nat) : Text := (text.extract i j).toList
    match if text.size < start then none else p.find? text start with
    | none => (copy start text.size, false)
    | some (i, fit) =>
      let j := fit.place
      if i = j && behind = some i then
        let (rest, changed) := replaceFrom sub p text fuel (i + 1) count none
        (copy start (i + 1) ++ rest, changed)
      else
        let count := count + 1
        let chosen := sub.first ≤ count
        let put := copy start i ++ if chosen then fill text i fit none sub.pieces else copy i j
        if chosen && !sub.all then
          (put ++ copy j text.size, true)
        else
          let (rest, changed) := if i = j
            then
              let (rest, changed) := replaceFrom sub p text fuel (j + 1) count none
              (copy j (j + 1) ++ rest, changed)
            else replaceFrom sub p text fuel j count (some j)
          (put ++ rest, chosen || changed)

def chomp (t : Text) : Text := if t.getLast? = some (newline s) then t.dropLast else t

def substitute (sub : Substitution) : Edit Unit := do
  if let (none, some (p, true)) := (sub.pattern, (← get).pattern) then
    if p.groups < sub.highest then
      mistake s ("invalid reference \\" ++ Nat.repr sub.highest ++ " on \x60s' command's RHS")
  let p ← usePattern s sub.pattern false
  let text := (← get).space.text.toArray
  let (t, changed) := replaceFrom sub p text (text.size + 2) 0 0 none
  if changed then
    modify fun e => { e with
      space := { e.space with text := t }, spareEnded := e.space.ended, replaced := true }
    if sub.prints.1 then
      printLine s .result (← get).space
    if sub.runs then
      let out ← (s.shell t : System Text)
      modify fun e => { e with space := { e.space with text := chomp s out } }
    if sub.prints.2 then
      printLine s .result (← get).space
    if let some sink := sub.sink then
      printLine s sink (← get).space

/-! Commands. -/

def listed (c : Char) : Text :=
  match c with
  | '\\' => ['\\', '\\']
  | '\x07' => ['\\', 'a']
  | '\x08' => ['\\', 'b']
  | '\x0c' => ['\\', 'f']
  | '\n' => ['\\', 'n']
  | '\r' => ['\\', 'r']
  | '\t' => ['\\', 't']
  | '\x0b' => ['\\', 'v']
  | c =>
    let n := c.toNat
    if 32 ≤ n && n < 127 then [c]
    else '\\' :: [n / 64, n / 8 % 8, n % 8].map fun d => Char.ofNat (48 + d)

def listing (width : Nat) (t : Text) : Text :=
  let (out, _) := t.foldl
    (fun (out, column) c =>
      let shown := listed c
      if 0 < width && width - 1 < column + shown.length then
        (shown.reverse ++ newline s :: '\\' :: out, shown.length)
      else (shown.reverse ++ out, column + shown.length))
    (([] : Text), 0)
  out.reverse ++ ['$', newline s]

def firstLine : Edit Space := do
  let l := (← get).space
  let first := l.text.takeWhile (· ≠ newline s)
  return if first.length < l.text.length then ⟨first, true⟩ else l

def queueLine (name : Text) : Edit Unit := do
  let e ← get
  let (whole, rest) ← match e.contents.lookup name, e.sources.lookup name with
    | some found, _ => pure found
    | none, none => do
      if name = "/dev/stdin".toList then
        let t ← wholeFile s name
        pure (t, t)
      else pure ([], [])
    | none, some i => do
      match ← (World.readAll i : System _) with
      | .error reason => fail ("read error on ".toList ++ name ++ ": ".toList ++ reason.description)
      | .ok bytes => pure (Octets.ofBytes bytes, Octets.ofBytes bytes)
  let (l, after) := takeLine s rest
  unless rest.isEmpty do
    enqueue (.text (if l.ended then l.text ++ [newline s] else l.text))
  modify fun e =>
    { e with contents := (name, whole, after) :: e.contents.filter fun entry => entry.1 ≠ name }

def jump (label : Text) : Flow := .goTo ((s.script.target? label).getD s.script.commands.size)

def perform (i : Nat) (operation : Operation) : Edit Flow := do
  let e ← get
  let onward : Flow := .goTo (i + 1)
  match operation with
  | .block _ | .rest => return onward
  | .substitute sub =>
    substitute s sub
    return onward
  | .exchangeLetters letters =>
    let text := e.space.text.map fun c => (letters.lookup c).getD c
    set { e with space := { e.space with text } }
    return onward
  | .append t =>
    endLine s .result
    enqueue (.text t)
    return onward
  | .insert t =>
    printOwn s t
    return onward
  | .change t =>
    match e.ranges[i]? with
    | some (.active _) => pure ()
    | _ => printOwn s t
    return .drop
  | .print =>
    printLine s .result e.space
    return onward
  | .printFirst =>
    printLine s .result (← firstLine s)
    return onward
  | .delete => return .drop
  | .deleteFirst =>
    match (e.space.text.dropWhile (· ≠ newline s)) with
    | [] => return .drop
    | _ :: rest =>
      set { e with space := { e.space with text := rest } }
      return .goTo 0
  | .next =>
    if ← isLast s then
      return if s.strict then .drop else .print
    unless s.quiet do
      printLine s .result (← get).space
    return if ← readLine s false then onward else .drop
  | .nextToo =>
    if ← isLast s then
      return if s.strict then .drop else .print
    return if ← readLine s true then onward else .print
  | .get =>
    set { e with space := e.held }
    return onward
  | .getToo =>
    set { e with space := ⟨e.space.text ++ newline s :: e.held.text, e.held.ended⟩ }
    return onward
  | .hold =>
    set { e with held := e.space }
    return onward
  | .holdToo =>
    set { e with held := ⟨e.held.text ++ newline s :: e.space.text, e.space.ended⟩ }
    return onward
  | .swap =>
    set { e with space := e.held, held := e.space }
    return onward
  | .clear =>
    set { e with space := { e.space with text := [] } }
    return onward
  | .number =>
    printText s ((Nat.repr e.line).toList ++ [newline s])
    return onward
  | .fileName =>
    printText s (e.name ++ [newline s])
    return onward
  | .list width =>
    printText s (listing s (width.getD s.width) e.space.text)
    return onward
  | .quit code =>
    unless s.quiet do
      printLine s .result e.space
    endLine s .result
    flushQueue s
    throw (.quit code.toUInt8)
  | .leave code => throw (.quit code.toUInt8)
  | .readFile name =>
    enqueue (.file name)
    return onward
  | .readLine name =>
    queueLine s name
    return onward
  | .write sink =>
    printLine s sink e.space
    return onward
  | .writeFirst sink =>
    printLine s sink (← firstLine s)
    return onward
  | .jump label => return jump s label
  | .jumpIfReplaced label =>
    if e.replaced then
      set { e with replaced := false }
      return jump s label
    else return onward
  | .jumpUnlessReplaced label =>
    if e.replaced then
      set { e with replaced := false }
      return onward
    else return jump s label
  | .run command =>
    if command.isEmpty then
      let out ← (s.shell e.space.text : System Text)
      modify fun e => { e with space := ⟨chomp s out, e.spareEnded⟩, spareEnded := e.space.ended }
    else
      printText s (← (s.shell command : System Text))
    return onward
  | .unknown c => fail ("INTERNAL ERROR: Bad cmd ".toList ++ [c])

/-- Runs the script on the line from a place on; `fuel` bounds the commands that are run. -/
def runFrom : Nat → Nat → Edit Flow
  | 0, _ => return .print
  | fuel + 1, i => do
    match s.script.commands[i]? with
    | none => return .print
    | some c =>
      let selected := (← selects s i c.selection) != c.selection.negated
      let flow ← match c.operation with
        | .block stop => pure (.goTo (if selected then i + 1 else stop))
        | operation => if selected then perform s i operation else pure (.goTo (i + 1))
      match flow with
      | .goTo place => runFrom fuel place
      | flow => return flow

def limit : Nat := 10000000

def lines : Nat → Edit Unit
  | 0 => return
  | fuel + 1 => do
    if ← readLine s false then
      match ← runFrom s limit 0 with
      | .print =>
        unless s.quiet do
          printLine s .result (← get).space
      | _ => pure ()
      flushQueue s
      lines fuel

def leaveInput : Edit Unit := do
  let e ← get
  if let (true, some (.ok rest), some i) :=
      (e.name = ['-'] && s.inPlace.isNone, e.input, s.process.descriptors.lookup 0) then
    (World.unread i (Octets.toBytes rest) s.unbuffered : System Unit)

def all : Edit Unit := do
  modify fun e => { e with startsAnew := true }
  startAnew s
  tryCatch (lines s limit) fun stop => do
    match stop with
    | .fault f => throw (.fault f)
    | .quit code =>
      leaveInput s
      closeInput s
      throw (.quit code)

end Edit

end DatalogDoc.Command.Sed
