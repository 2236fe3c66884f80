import DatalogDoc.Shell.Builtin
import DatalogDoc.Shell.Link

/-!
# Running scripts

`Runner.step` runs one construct of the shell, given how to run the scripts inside it and the tools
of the system; the knot is tied elsewhere, with a bound on the depth of the run.

A command may be *tested*, which keeps its failure from ending a strict shell, and it may be the
*last* thing that a process does, so that a program can take the place of the shell.
-/

namespace DatalogDoc.Shell

open Run

structure Runner where
  eval : (tested last : Bool) → Script → Run Unit
  tool : Tool → Behaviour

namespace Runner

variable (r : Runner)

/-! Texts. -/

def passed (before after : Text) : Text := before.take (before.length - after.length)

def lines (n : Nat) (t : Text) : Text :=
  let first := (t.splitOn '\n').take n
  let joined := ['\n'].intercalate first
  if joined.length < t.length then joined ++ ['\n'] else joined

def showInput (isFile : Bool) (t : Text) : Run Unit := do
  if isFile && (← get).options.verbose then
    let _ ← print 2 t

/-- Runs the commands of a text one after another; gives the status of the last one, which is zero if
there is none. -/
def runCommands (isFile tested last : Bool) : Nat → Nat → Reader → Run Nat
  | 0, status, _ => return status
  | fuel + 1, status, reader => do
    let s ← get
    let reader := { reader with aliases := s.aliases, announcements := s.announcements }
    match reader.next with
    | .error fault =>
      showInput isFile (lines (fault.line + 1 - reader.line) reader.rest)
      modify fun s => { s with line := fault.line }
      fail fault.message
    | .ok (script, ended, after) =>
      showInput isFile (passed reader.rest after.rest)
      modify fun s => { s with
        documents := after.documents ++ s.documents, announcements := after.announcements }
      let after := { after with documents := [] }
      match script with
      | none => return status
      | some script =>
        r.eval tested (last && ended) script
        let now := (← get).status
        let status := match script with
          | .skip => status
          | _ => now
        if ended then return status
        else runCommands isFile tested last fuel status after

def runText (isFile tested last : Bool) (t : Text) : Run Nat :=
  r.runCommands isFile tested last (t.length + 2) 0 { rest := t }

/-! Signals. -/

def runTrap (script : Text) : Run Unit := do
  let s ← get
  modify fun s => { s with held := some (s.held.getD s.status) }
  let _ ← r.runText false false false script
  modify fun s' => { s' with status := s.status, held := s.held }

def deliver : Run Unit := do
  let s ← get
  let mine := (s.world.signals.filter (·.1 = s.real)).map (·.2)
  unless mine.isEmpty do
    set { s with world := { s.world with signals := s.world.signals.filter (·.1 ≠ s.real) } }
    match mine.find? (reaction s · = .die) with
    | some signal => throw (.killed signal)
    | none =>
      for signal in (List.range 65).filter mine.contains do
        if let .act script := reaction (← get) signal then
          r.runTrap script

def deathNotice (signal : Nat) : Option Text :=
  let notices :=
    ["Hangup", "", "Quit", "Illegal instruction", "Trace/breakpoint trap", "Aborted", "Bus error",
     "Floating point exception", "Killed", "User defined signal 1", "Segmentation fault",
     "User defined signal 2", "", "Alarm clock", "Terminated", "Stack fault", "Child exited",
     "Continued", "Stopped (signal)", "Stopped", "Stopped (tty input)", "Stopped (tty output)",
     "Urgent I/O condition", "CPU time limit exceeded", "File size limit exceeded",
     "Virtual timer expired", "Profiling timer expired", "Window changed", "I/O possible",
     "Power failure", "Bad system call"]
  match notices[signal - 1]? with
  | some "" => none
  | some t => some t.toList
  | none =>
    if 34 ≤ signal then some ("Real-time signal ".toList ++ Nat.toDigits 10 (signal - 34))
    else some ("Unknown signal ".toList ++ Nat.toDigits 10 signal)

def settle (status : Status) : Run Unit := do
  setStatus status.number
  if let .killed signal := status then
    if let some notice := deathNotice signal then
      let _ ← print 2 (notice ++ ['\n'])

/-! Processes. -/

/-- How a shell ends that has run something; the trap for its end is run last. -/
def conclude (act : Run Unit) (s : Session) : Status × Session :=
  let ended (s : Session) : Status := .exited s.status.toUInt8
  match (act.run).run s with
  | (.error (.killed signal), s) => (.killed signal, s)
  | (.error (.replaced status), s) => (status, s)
  | (_, s) =>
    match s.traps.lookup 0 with
    | some (.run script) =>
      let s := { s with traps := s.traps.filter fun entry => entry.1 ≠ 0, loops := 0 }
      match ((r.runTrap script).run).run s with
      | (.error (.killed signal), s) => (.killed signal, s)
      | (.error (.replaced status), s) => (status, s)
      | (.error .leaveFunction, s') => (ended s, s')
      | (_, s) => (ended s, s)
    | _ => (ended s, s)

/-- Runs something as a process of its own, from which only the world comes back, and not the place
where it stands. -/
def isolated (act : Run Unit) : Run (Nat × Status) := do
  let outer ← get
  let number := outer.world.youngest + 1
  let (status, inner) := r.conclude act { outer with
    world := { outer.world with youngest := number }
    real := number, ancestors := outer.real :: outer.ancestors
    traps := outer.traps.filter fun entry => entry.2 = .ignore
    jobs := [], held := none }
  let files := { inner.world.files with workdir := outer.world.files.workdir }
  set { outer with world := { inner.world with files } }
  return (number, status)

def capture : Capture := fun script => do
  if let .skip := script then
    return []
  let i ← system (World.openChannel { target := .pipe [], reads := true, writes := true })
  let before := (← get).status
  let (_, status) ← r.isolated do
    attach 1 (some i)
    r.eval false true script
  settle status
  modify fun s => { s with substituted := s.status, status := before }
  let bytes := (← system (World.readAll i)).toOption.getD []
  let t := (Octets.ofBytes bytes).filter (· ≠ '\x00')
  return (t.reverse.dropWhile (· = '\n')).reverse

/-! Programs. -/

/-- Starts a program: in the place of the shell if that has nothing left to do. -/
def start (last : Bool) (image : Image) : Run Unit := do
  let s ← get
  let number := if last then s.real else s.world.youngest + 1
  let p : Process := {
    name := image.name, arguments := image.arguments, descriptors := s.descriptors
    environment := environment s, number, parent := if last then s.parent else s.real
    ignored := s.traps.filterMap fun (n, t) => if t = .ignore then some n else none }
  let youngest := if last then s.world.youngest else number
  let (status, world) := (r.tool image.tool p).run { s.world with youngest }
  let files := { world.files with workdir := s.world.files.workdir }
  set { s with world := { world with files } }
  if last then throw (.replaced status) else settle status

/-- The image of the first file that can be run; a file that is no program is a script of the
shell. -/
def firstImage (files : Files) (name : Text) (args : List Text) (e : OsError) :
    List Text → Except OsError Image
  | [] => .error e
  | file :: rest =>
    match files.image file name args Image.chain with
    | .ok image => .ok image
    | .error .badFormat => .ok ⟨.shell, "/bin/sh".toList, file :: args⟩
    | .error reason =>
      firstImage files name args
        (if reason = .notFound || reason = .notDirectory then e else reason) rest

def refusalStatus : OsError → Nat
  | .notFound | .notDirectory | .nameTooLong | .tooManyLinks => 127
  | _ => 126

def findImage (path name : Text) (args : List Text) : Run (Except OsError Image) := do
  let files := (← get).world.files
  if name.contains '/' then
    return match files.image name name args Image.chain with
      | .error .badFormat => .ok ⟨.shell, "/bin/sh".toList, name :: args⟩
      | found => found
  else return firstImage files name args .notFound (Builtin.candidates path name)

def searchPath : Run Text := return (value? (← get) "PATH".toList).getD []

def runProgram (last : Bool) (path name : Text) (args : List Text) : Run Unit := do
  let s ← get
  let complain (status : Nat) (e : OsError) : Run Unit := do
    warn (name ++ ": ".toList ++ openFault "not found" e)
    setStatus status
  match if name.contains '/' then .ok name else Builtin.search s.world.files path name with
  | .error e => complain 127 e
  | .ok _ =>
    unless name.contains '/' || s.remembered.contains name do
      modify fun s => { s with remembered := name :: s.remembered }
    match ← findImage path name args with
    | .error e => complain (refusalStatus e) e
    | .ok image =>
      let hasTraps := s.traps.any fun entry => entry.2 ≠ .ignore
      r.start (last && !hasTraps) image

/-! Commands of the shell that run other commands. -/

def isKeyword (t : Text) : Bool := keywords.contains (String.ofList t)

def isBuiltin (t : Text) : Bool :=
  let name := String.ofList t
  ["eval", "exec", ".", "command", "type"].contains name || (Builtin.find? name).isSome

def standardPath : Text := "/usr/local/sbin:/usr/local/bin:/usr/sbin:/usr/bin:/sbin:/bin".toList

def describe (path : Option Text) (verbose : Bool) (name : Text) : Run Nat := do
  let s ← get
  let directories ← match path with
    | some path => pure path
    | none => searchPath
  let tell (long short : Text) : Run Nat :=
    Builtin.say ((if verbose then name ++ long else short) ++ ['\n'])
  if isKeyword name then
    tell " is a shell keyword".toList name
  else
    match s.aliases.lookup name with
    | some t =>
      tell (" is an alias for ".toList ++ t)
        ("alias ".toList ++ name ++ '=' :: Builtin.singleQuoted t)
    | none =>
      if (s.functions.lookup name).isSome then
        tell " is a shell function".toList name
      else if isBuiltin name then
        tell (if isSpecialCommand name then " is a special shell builtin" else " is a shell builtin").toList
          name
      else
        let found := if name.contains '/' then
            (s.world.files.find (Octets.toText name)).toOption.map fun _ => name
          else (Builtin.search s.world.files directories name).toOption
        match found with
        | some file =>
          let known := path.isNone && s.remembered.contains name
          tell ((if known then " is a tracked alias for " else " is ").toList ++ file) file
        | none =>
          if verbose then
            let _ ← Builtin.say (name ++ ": not found\n".toList)
          return 127

def typeOf : Builtin := fun args => do
  let mut status := 0
  for name in args do
    status := max status (← describe none true name)
  return status

def describeCommand : Builtin := fun args => do
  let (found, args) ← Builtin.flags "pvV" args
  let path := if found.any (·.1 = 'p') then some standardPath else none
  match args with
  | name :: _ =>
    if found.any (·.1 = 'V') then describe path true name
    else if found.any (·.1 = 'v') then describe path false name
    else return 0
  | [] => return 0

def source : Builtin := fun args => do
  let (_, args) ← Builtin.flags "" args
  match args with
  | [] => return 0
  | name :: _ =>
    let s ← get
    let isFile (file : Text) : Bool :=
      match s.world.files.find (Octets.toText file) with
      | .ok (_, .regular ..) | .ok (_, .tool _) => true
      | _ => false
    let file ← if name.contains '/' then pure name
      else
        match (Builtin.candidates (← searchPath) name).find? isFile with
        | some file => pure file
        | none => fail (name ++ ": not found".toList)
    match ← system (Process.openFile s.descriptors file .read) with
    | .error e => fail ("cannot open ".toList ++ file ++ ": ".toList ++ openFault "No such file" e)
    | .ok i =>
      let content := Octets.ofBytes ((← system (World.readAll i)).toOption.getD [])
      modify fun s => { s with command := some file }
      try
        r.runText true false false content
      catch
        | .leaveFunction => return (← get).status
        | j => throw j

def replace : Builtin := fun args => do
  match args with
  | [] => return 0
  | name :: args =>
    match ← findImage (← searchPath) name args with
    | .ok image =>
      r.start true image
      return 0
    | .error e =>
      warn (name ++ ": ".toList ++ openFault "not found" e)
      setStatus (refusalStatus e)
      throw .exit

def builtin (tested : Bool) (name : Text) : Builtin :=
  match String.ofList name with
  | "eval" => fun args =>
    let t := Command.unwords args
    if t.isEmpty then return 0 else r.runText false tested false t
  | "exec" => r.replace
  | "." => r.source
  | "command" => describeCommand
  | "type" => typeOf
  | other => (Builtin.find? other).getD fun _ => return 127

/-- Runs a command of the shell. Its failure ends the shell if it is a special one. -/
def runBuiltin (tested special : Bool) (name : Text) (args : List Text) : Run Unit := do
  let saved := (← get).command
  let restore : Run Unit := modify fun s => { s with command := saved }
  modify fun s => { s with command := some name }
  try
    setStatus (← r.builtin tested name args)
    restore
  catch j =>
    restore
    match j with
    | .error => if special then throw j
    | j => throw j

/-! Simple commands. -/

def callFunction (tested : Bool) (body : Script) (args : List Text) : Run Unit := do
  let outer ← get
  let leave : Run Unit := do
    for (name, old) in ((← get).locals.head?).getD [] do
      put name old
    modify fun s => { s with
      arguments := outer.arguments, loops := outer.loops, locals := outer.locals }
  set { outer with arguments := args, loops := 0, locals := [] :: outer.locals }
  try
    r.eval tested false body
    leave
  catch j =>
    leave
    match j with
    | .leaveFunction => pure ()
    | j => throw j

structure Call where
  words : List Text
  bare : Bool := false
  path : Option Text := none
  special : Bool := false

def stripOptions (path : Option Text) : List Text → Option (Option Text × List Text)
  | [] => none
  | ['-', '-'] :: rest => if rest.isEmpty then none else some (path, rest)
  | ('-' :: c :: cs) :: rest =>
    if (c :: cs).all (· = 'p') then stripOptions (some standardPath) rest else none
  | rest => some (path, rest)

def Call.strip (s : Session) : Nat → Call → Call
  | 0, call => call
  | fuel + 1, call =>
    match call.words with
    | name :: rest =>
      if name = "command".toList && (call.bare || (s.functions.lookup name).isNone) then
        match stripOptions call.path rest with
        | some (path, words) => Call.strip s fuel { call with words, path, bare := true }
        | none => call
      else call
    | [] => call

def Call.ofFields (s : Session) (fields : List Text) : Call :=
  let special := match fields with
    | name :: _ => isSpecialCommand name
    | [] => false
  Call.strip s fields.length { words := fields, special }

def Call.assigns (s : Session) (call : Call) : Bool :=
  match call.words with
  | name :: _ =>
    ["alias", "export", "readonly", "local"].contains (String.ofList name)
      && (call.bare || (s.functions.lookup name).isNone)
  | [] => false

def expandWords : List Text → List Word → Run (List Text)
  | fields, [] => return fields
  | fields, word :: words => do
    let s ← get
    let more ← match (Call.ofFields s fields).assigns s, word.assignment? with
      | true, some (name, value) =>
        pure [name ++ '=' :: (← Expansion.assigned r.capture value)]
      | _, _ => Expansion.fields r.capture word
    expandWords (fields ++ more) words

def trace (descriptors : Descriptors) (assignments : List (Text × Text)) (fields : List Text) :
    Run Unit := do
  let s ← get
  if s.options.traced then
    let front := (value? s "PS4".toList).getD []
    let words := assignments.map (fun (name, value) => name ++ '=' :: value) ++ fields
    let p := { ← process with descriptors }
    let _ ← system (p.write 2 (front ++ Command.unwords words ++ ['\n']))

def makeAssignments (exported : Bool) (assignments : List (Text × Word)) : Run (List (Text × Text)) :=
  assignments.mapM fun (name, word) => do
    let value ← Expansion.assigned r.capture word
    assign name value
    if exported then
      exportName name
    return (name, value)

def dispatch (tested last : Bool) (call : Call) : Run Unit := do
  let s ← get
  match call.words with
  | [] => setStatus s.substituted
  | name :: args =>
    match if call.bare then none else s.functions.lookup name with
    | some body => r.callFunction tested body args
    | none =>
      if isBuiltin name then
        r.runBuiltin tested call.special name args
      else
        r.runProgram last (call.path.getD (← searchPath)) name args

/-- Runs a simple command. Assignments stay unless they are made for one command that is not
special. -/
def simple (tested last : Bool) (assignments : List (Text × Word)) (words : List Word)
    (redirections : List Redirection) : Run Unit := do
  modify fun s => { s with substituted := 0 }
  let fields ← r.expandWords [] words
  let s ← get
  let call := Call.ofFields s fields
  let isReplacement := call.words.head? = some "exec".toList
  let isTemporary := !call.words.isEmpty && !call.special
  let links ← redirections.mapM (Link.ofRedirection r.capture)
  let before := (← get).descriptors
  let body : Run Unit := do
    if ← Link.makeAll r.capture links then
      let old := assignments.map fun (name, _) => (name, binding? s name)
      let restore : Run Unit := do
        if isTemporary then
          for (name, b) in old do
            put name b
      try
        let values ← r.makeAssignments
          (isTemporary || (isReplacement && 1 < call.words.length)) assignments
        trace before values fields
        r.dispatch tested last call
        restore
      catch j =>
        restore
        throw j
    else if call.special then
      throw .error
  if isReplacement then body else keepingDescriptors body

/-! Compound commands. -/

def insist (tested : Bool) : Run Unit := do
  let s ← get
  if s.options.strict && !tested && s.status ≠ 0 then
    throw .exit

inductive Turn
  | again
  | done
deriving DecidableEq

def turn (act : Run Turn) : Run Turn := do
  try act
  catch
    | .stopLoops n => if n ≤ 1 then return .done else throw (.stopLoops (n - 1))
    | .restartLoop n => if n ≤ 1 then return .again else throw (.restartLoop (n - 1))
    | j => throw j

def inLoop {α : Type} (act : Run α) : Run α := do
  let saved := (← get).loops
  let restore : Run Unit := modify fun s => { s with loops := saved }
  modify fun s => { s with loops := saved + 1 }
  try
    let a ← act
    restore
    return a
  catch j =>
    restore
    throw j

def turns : Nat := 1000000

def whileLoop (tested expected : Bool) (test body : Script) : Nat → Nat → Run Unit
  | 0, status => setStatus status
  | fuel + 1, status => do
    let next ← turn do
      r.eval true false test
      if ((← get).status == 0) == expected then
        r.eval tested false body
        return .again
      else
        setStatus status
        return .done
    match next with
    | .done => return
    | .again => whileLoop tested expected test body fuel (← get).status

def forLoop (tested : Bool) (name : Text) (body : Script) : List Text → Run Unit
  | [] => return
  | item :: items => do
    let next ← turn do
      assign name item
      r.eval tested false body
      return .again
    match next with
    | .done => return
    | .again => forLoop tested name body items

def choose (tested last : Bool) (t : Text) : List (List Word × Script) → Run Unit
  | [] => setStatus 0
  | (patterns, body) :: cases => do
    let fits ← patterns.anyM fun word => return (← Expansion.pattern r.capture word).fits t
    if !fits then choose tested last t cases
    else
      match body with
      | .skip => setStatus 0
      | body => r.eval tested last body

/-- Runs the parts of a pipe one after another, each on what the one before it has printed. -/
def runPipe (tested background : Bool) : Option Nat → List Script → Run (Nat × Status)
  | _, [] => return (0, .exited 0)
  | input, part :: parts => do
    let output ← if parts.isEmpty then pure none
      else some <$> system (World.openChannel { target := .pipe [], reads := true, writes := true })
    let ended ← r.isolated do
      if input.isSome then
        attach 0 input
      if output.isSome then
        attach 1 output
      r.eval tested true part
    unless background do
      settle ended.2
    match parts with
    | [] => return ended
    | parts => runPipe tested background output parts

def noteJob (job : Nat × Status) : Run Unit := modify fun s =>
  { s with background := some job.1, jobs := job :: s.jobs, status := 0 }

def emptyInput : Run Nat := system (World.openChannel { target := .null, reads := true })

def setLine (line : Nat) : Run Unit := modify fun s => { s with line }

def construct (tested last : Bool) : Script → Run Unit
  | .skip => return
  | .simple line assignments words redirections => do
    setLine line
    r.simple tested last assignments words redirections
    insist tested
  | .pipeline parts background => do
    if background then
      noteJob (← r.runPipe false true (some (← emptyInput)) parts)
    else
      let _ ← r.runPipe tested false none parts
      insist tested
  | .sequence first second => do
    r.eval tested false first
    r.eval tested last second
  | .both first second => do
    r.eval true false first
    if (← get).status = 0 then
      r.eval tested last second
  | .either first second => do
    r.eval true false first
    if (← get).status ≠ 0 then
      r.eval tested last second
  | .negated script => do
    r.eval true false script
    setStatus (if (← get).status = 0 then 1 else 0)
  | .background script redirections => do
    let links ← redirections.mapM (Link.ofRedirection r.capture)
    let input ← emptyInput
    noteJob (← r.isolated do
      attach 0 (some input)
      links.forM (Link.make r.capture)
      r.eval false true script)
  | .redirected line script redirections => do
    setLine line
    let links ← redirections.mapM (Link.ofRedirection r.capture)
    keepingDescriptors do
      if ← Link.makeAll r.capture links then
        r.eval tested false script
  | .subshell line script redirections => do
    setLine line
    let links ← redirections.mapM (Link.ofRedirection r.capture)
    let (_, status) ← r.isolated do
      links.forM (Link.make r.capture)
      r.eval tested true script
    settle status
    insist tested
  | .branch test yes no => do
    r.eval true false test
    if (← get).status = 0 then
      r.eval tested last yes
    else
      match no with
      | .skip => setStatus 0
      | no => r.eval tested last no
  | .loop expected test body => inLoop (r.whileLoop tested expected test body turns 0)
  | .forEach line name words body => do
    setLine line
    let items ← match words with
      | none => pure (← get).arguments
      | some words => words.flatMapM (Expansion.fields r.capture)
    setStatus 0
    inLoop (r.forLoop tested name body items)
  | .choose line word cases => do
    setLine line
    let t ← Expansion.string r.capture word
    r.choose tested last t cases
  | .define name body => do
    modify fun s => { s with
      functions := (name, body) :: s.functions.filter fun entry => entry.1 ≠ name }
    setStatus 0

def step (tested last : Bool) (script : Script) : Run Unit := do
  unless (← get).options.idle do
    r.deliver
    r.construct tested last script
    r.deliver

end Runner

end DatalogDoc.Shell
