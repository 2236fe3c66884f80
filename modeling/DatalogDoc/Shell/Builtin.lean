import DatalogDoc.Command.Printf
import DatalogDoc.Command.Test
import DatalogDoc.Shell.Expansion

/-!
# Commands that the shell runs itself

Those that need no other command to be run. Each gives the status it ends with.
-/

namespace DatalogDoc.Shell

open Run

abbrev Builtin := List Text → Run Nat

namespace Builtin

def number (t : Text) : Run Nat :=
  if t.isEmpty || !t.all Char.isDigit || Nat.pow 2 31 ≤ Command.decimalValue t then
    fail ("Illegal number: ".toList ++ t)
  else return Command.decimalValue t

/-- Takes the options in front, which must be among the given letters; those before a colon take a
value. -/
def options (letters : Text) : Nat → List Text → Run (List (Char × Text) × List Text)
  | 0, args => return ([], args)
  | fuel + 1, args => do
    match args with
    | ['-', '-'] :: rest => return ([], rest)
    | ('-' :: c :: cs) :: rest =>
      if c = ':' || !letters.contains c then
        fail ("Illegal option -".toList ++ [c])
      else if (letters.dropWhile (· ≠ c))[1]? = some ':' then
        match cs, rest with
        | [], [] => fail ("No arg for -".toList ++ c :: " option".toList)
        | [], value :: rest =>
          let (more, operands) ← options letters fuel rest
          return ((c, value) :: more, operands)
        | value, rest =>
          let (more, operands) ← options letters fuel rest
          return ((c, value) :: more, operands)
      else
        let (more, operands) ← options letters fuel (if cs.isEmpty then rest else ('-' :: cs) :: rest)
        return ((c, []) :: more, operands)
    | args => return ([], args)

def flags (letters : String) (args : List Text) : Run (List (Char × Text) × List Text) :=
  options letters.toList (args.flatten.length + args.length + 1) args

def singleQuoted (t : Text) : Text :=
  '\'' :: t.flatMap (fun c => if c = '\'' then "'\"'\"'".toList else [c]) ++ ['\'']

def say (t : Text) : Run Nat := do
  if ← print 1 t then return 0
  else
    warn ((((← get).command).getD []) ++ ": I/O error".toList)
    return 1

def echo : Builtin := fun args => say (Command.shellEcho args)

def printf : Builtin := fun args => do
  let (_, args) ← flags "" args
  match args with
  | [] => fail "usage: printf format [arg ...]".toList
  | format :: args =>
    let s := Command.Printf.run format args
    for complaint in s.complaints do
      warn complaint
    let status ← say s.out
    match s.fault with
    | some fault => fail fault
    | none => return if s.complaints.isEmpty then status else 1

def test (isBracket : Bool) : Builtin := fun args => do
  if isBracket && args.getLast? ≠ some [']'] then
    fail "missing ]".toList
  match Command.Test.run (← get).world.files (if isBracket then args.dropLast else args) with
  | .ok b => return if b then 0 else 1
  | .error why => fail why

/-! Signals. -/

def signalName (n : Nat) : Text :=
  if n = 0 then "EXIT".toList
  else if n = 16 || n = 32 || n = 33 then Nat.toDigits 10 n
  else if n = 34 then "RTMIN".toList
  else if 34 < n && n ≤ 49 then "RTMIN+".toList ++ Nat.toDigits 10 (n - 34)
  else if 49 < n && n < 64 then "RTMAX-".toList ++ Nat.toDigits 10 (64 - n)
  else if n = 64 then "RTMAX".toList
  else ((Status.signalName? n).getD "").toList

def signal? (least : Nat) (t : Text) : Option Nat :=
  if !t.isEmpty && t.all Char.isDigit then
    let n := Command.decimalValue t
    if n < 65 then some n else none
  else
    (List.range 65).find? fun n => least ≤ n && signalName n = t.map Char.toUpper

def send (signal process : Nat) : Run Bool := do
  let s ← get
  if s.real = process && signal ≠ 0 && reaction s signal = .die then
    throw (.killed signal)
  else if s.real = process || s.number = process || s.ancestors.contains process then
    unless signal = 0 do
      modify fun s => { s with world := { s.world with
        signals := s.world.signals ++ [(process, signal)] } }
    return true
  else return (s.jobs.lookup process).isSome

def killUsage : Text :=
  "Usage: kill [-s sigspec | -signum | -sigspec] [pid | job]... or\nkill -l [exitstatus]".toList

def listSignals : Builtin
  | [] =>
    say ("0\n".toList ++ (List.range 64).flatMap fun n => signalName (n + 1) ++ ['\n'])
  | t :: _ => do
    let n ← number t
    let n := if 128 < n then n - 128 else n
    if 0 < n && n < 65 then say (signalName n ++ ['\n'])
    else fail ("invalid signal number or exit status: ".toList ++ t)

def kill : Builtin := fun args => do
  let named := match args with
    | ('-' :: t) :: rest => (signal? 1 t).map (·, rest)
    | _ => none
  let (signal, isList, targets) ← match named, args with
    | some (signal, rest), _ => pure (some signal, false, rest)
    | none, ('-' :: _) :: _ => do
      let (found, rest) ← flags "ls:" args
      let signal ← match found.reverse.find? (·.1 = 's') with
        | none => pure none
        | some (_, t) =>
          match signal? 1 t with
          | some n => pure (some n)
          | none => fail ("invalid signal number or name: ".toList ++ t)
      pure (signal, found.any (·.1 = 'l'), rest)
    | none, args => pure (none, false, args)
  if isList then
    if signal.isSome then fail killUsage else listSignals targets
  else if targets.isEmpty then
    fail killUsage
  else
    let signal := signal.getD 15
    let mut status := 0
    for t in targets do
      let known ← match t with
        | '%' :: _ => pure false
        | '-' :: t => do
          let _ ← number t
          pure false
        | t => do send signal (← number t)
      unless known do
        warn "No such process\n".toList
        status := 1
    return status

def trap : Builtin := fun args => do
  let (_, args) ← flags "" args
  let assign (action : Option Trap) (names : List Text) : Run Nat := do
    for t in names do
      match signal? 0 t with
      | none =>
        let _ ← print 2 ("trap: ".toList ++ t ++ ": bad trap\n".toList)
        return 1
      | some n =>
        modify fun s =>
          let others := s.traps.filter fun entry => entry.1 ≠ n
          { s with traps := match action with
              | some action => (n, action) :: others
              | none => others }
    return 0
  match args with
  | [] =>
    let s ← get
    say ((List.range 65).flatMap fun n =>
      match s.traps.lookup n with
      | none => []
      | some action =>
        let text := match action with
          | .ignore => []
          | .run t => t
        "trap -- ".toList ++ singleQuoted text ++ ' ' :: signalName n ++ ['\n'])
  | [name] => assign none [name]
  | action :: names =>
    if !action.isEmpty && action.all Char.isDigit then assign none (action :: names)
    else if action = ['-'] then assign none names
    else if action.isEmpty then assign (some .ignore) names
    else assign (some (.run action)) names

/-! Variables and options. -/

def splitAssignment (t : Text) : Text × Option Text :=
  let name := t.takeWhile (· ≠ '=')
  (name, match t.drop name.length with
    | [] => none
    | _ :: value => some value)

def checkName (t : Text) : Run Unit := do
  unless isName t do
    fail (t ++ ": bad variable name".toList)

def listing (word : String) (isListed : Binding → Bool) : Run Nat := do
  let s ← get
  let found := s.bindings.filter fun (_, b) => isListed b
  let lines := Glob.sort (found.map fun (name, b) =>
    name ++ match b.value with
      | some v => '=' :: singleQuoted v
      | none => [])
  say (lines.flatMap fun l => word.toList ++ ' ' :: l ++ ['\n'])

def exportNames : Builtin := fun args => do
  let (found, args) ← flags "p" args
  if args.isEmpty || !found.isEmpty then
    listing "export" Binding.exported
  else
    for t in args do
      let (name, value) := splitAssignment t
      checkName name
      if let some value := value then
        assign name value
      exportName name
    return 0

def protectNames : Builtin := fun args => do
  let (found, args) ← flags "p" args
  if args.isEmpty || !found.isEmpty then
    listing "readonly" Binding.readOnly
  else
    for t in args do
      let (name, value) := splitAssignment t
      checkName name
      if let some value := value then
        assign name value
      let old := (binding? (← get) name).getD { value := none }
      put name (some { old with readOnly := true })
    return 0

def unset : Builtin := fun args => do
  let (found, args) ← flags "vf" args
  for t in args do
    if found.getLast?.any (·.1 = 'f') then
      modify fun s => { s with functions := s.functions.filter fun entry => entry.1 ≠ t }
    else
      checkName t
      unsetName t
  return 0

def makeLocal : Builtin := fun args => do
  match (← get).locals with
  | [] => fail "not in a function".toList
  | _ =>
    for t in args do
      let (name, value) := splitAssignment t
      checkName name
      let s ← get
      match s.locals with
      | scope :: outer =>
        if (scope.lookup name).isNone then
          set { s with locals := ((name, binding? s name) :: scope) :: outer }
      | [] => pure ()
      if let some value := value then
        assign name value
    return 0

def setFlag (o : Options) (c : Char) (on : Bool) : Option Options :=
  match c with
  | 'e' => some { o with strict := on }
  | 'u' => some { o with wary := on }
  | 'x' => some { o with traced := on }
  | 'v' => some { o with verbose := on }
  | 'f' => some { o with literal := on }
  | 'n' => some { o with idle := on }
  | 'C' => some { o with protective := on }
  | 'a' => some { o with exporting := on }
  | 'b' | 'i' | 'I' | 'm' | 's' | 'p' | 'V' | 'E' => some o
  | _ => none

def optionNames : List (String × Char) :=
  [("errexit", 'e'), ("noglob", 'f'), ("ignoreeof", 'I'), ("interactive", 'i'), ("monitor", 'm'),
   ("noexec", 'n'), ("stdin", 's'), ("xtrace", 'x'), ("verbose", 'v'), ("vi", 'V'), ("emacs", 'E'),
   ("noclobber", 'C'), ("allexport", 'a'), ("notify", 'b'), ("nounset", 'u'), ("privileged", 'p'),
   ("nolog", 'p'), ("debug", 'p')]

def isOn (o : Options) (c : Char) : Bool :=
  match c with
  | 'e' => o.strict
  | 'u' => o.wary
  | 'x' => o.traced
  | 'v' => o.verbose
  | 'f' => o.literal
  | 'n' => o.idle
  | 'C' => o.protective
  | 'a' => o.exporting
  | _ => false

def listOptions : Run Unit := do
  let o := (← get).options
  let lines := optionNames.flatMap fun (name, c) =>
    name.toList ++ List.replicate (16 - name.length) ' ' ++ (if isOn o c then "on\n" else "off\n").toList
  let _ ← say ("Current option settings\n".toList ++ lines)

def setLetters (on : Bool) : Text → List Text → Run (List Text)
  | [], rest => return rest
  | 'o' :: cs, rest => do
    match rest with
    | [] =>
      listOptions
      setLetters on cs []
    | name :: rest =>
      match optionNames.find? (·.1.toList = name) with
      | some (_, c) =>
        modify fun s => { s with options := (setFlag s.options c on).getD s.options }
        setLetters on cs rest
      | none => fail ("Illegal option -o ".toList ++ name)
  | c :: cs, rest => do
    match setFlag (← get).options c on with
    | some options =>
      modify fun s => { s with options }
      setLetters on cs rest
    | none => fail ("Illegal option -".toList ++ [c])

def setOptions : Nat → Builtin
  | 0, _ => return 0
  | fuel + 1, args => do
    match args with
    | [] => return 0
    | ['-', '-'] :: rest =>
      modify fun s => { s with arguments := rest }
      return 0
    | ['-'] :: rest =>
      modify fun s => { s with options := { s.options with traced := false, verbose := false } }
      unless rest.isEmpty do
        modify fun s => { s with arguments := rest }
      return 0
    | ('-' :: c :: cs) :: rest => setOptions fuel (← setLetters true (c :: cs) rest)
    | ('+' :: cs) :: rest => setOptions fuel (← setLetters false cs rest)
    | rest =>
      modify fun s => { s with arguments := rest }
      return 0

def set : Builtin := fun args => do
  if args.isEmpty then
    let s ← get
    let lines := Glob.sort (s.bindings.filterMap fun (name, b) =>
      b.value.map fun v => name ++ '=' :: singleQuoted v)
    say (lines.flatMap (· ++ ['\n']))
  else setOptions (args.length + 1) args

def shift : Builtin := fun args => do
  let n ← match args with
    | [] => pure 1
    | t :: _ => number t
  let s ← get
  if s.arguments.length < n then
    fail "can't shift that many".toList
  modify fun s => { s with arguments := s.arguments.drop n }
  return 0

/-! Input. -/

/-- The parts of a line of input, and how many bytes it has; a backslash keeps the next character
from parting fields and hides a line end. -/
def inputLine (raw : Bool) : Text → Nat → Text → List Segment → List Segment × Nat × Bool
  | [], n, part, parts => (flush part parts, n, false)
  | '\n' :: _, n, part, parts => (flush part parts, n + 1, true)
  | '\\' :: t, n, part, parts =>
    if raw then inputLine raw t (n + 1) ('\\' :: part) parts
    else
      match t with
      | [] => (flush part parts, n + 1, false)
      | '\n' :: t => inputLine raw t (n + 2) part parts
      | c :: t =>
        inputLine raw t (n + 2) [] ({ glyphs := [⟨c, true⟩] } :: flush part parts)
  | c :: t, n, part, parts =>
    inputLine raw t (n + 1) (if c = '\x00' then part else c :: part) parts
where
  flush (part : Text) (parts : List Segment) : List Segment :=
    { glyphs := Glyph.ofText false part.reverse, splitting := .atSeparators } :: parts

def assignFields : List Text → List Text → Run Unit
  | [], _ => return
  | name :: names, fields => do
    assignChecked name (fields.headD [])
    assignFields names fields.tail

def read : Builtin := fun args => do
  let (found, names) ← flags "rp:" args
  if names.isEmpty then
    fail "arg count".toList
  let s ← get
  let ahead : Text := match s.descriptors.lookup 0 with
    | some i => (s.world.ahead i).toOption.elim [] Octets.ofBytes
    | none => []
  let (parts, length, complete) := inputLine (found.any (·.1 = 'r')) ahead 0 [] []
  if let some i := s.descriptors.lookup 0 then
    system (World.skip i length)
  let fields := Segment.fields (separators s) (some names.length) parts.reverse
  assignFields names (fields.map Glyph.text)
  return if complete then 0 else 1

/-! Places. -/

def changeDirectory : Builtin := fun args => do
  let (_, args) ← flags "LP" args
  let s ← get
  let (target, shown) := match args with
    | [] => ((value? s "HOME".toList).getD [], false)
    | ['-'] :: _ => ((value? s "OLDPWD".toList).getD [], true)
    | t :: _ => (t, false)
  match s.world.files.find (Octets.toText (if target.isEmpty then ['.'] else target)) with
  | .ok (p, .directory) =>
    let before := Octets.ofText (Path.text s.world.files.workdir)
    let path := Octets.ofText (if p.isEmpty then ['/'] else Path.text p)
    modify fun s => { s with world := { s.world with files := { s.world.files with workdir := p } } }
    assign "OLDPWD".toList before
    assign "PWD".toList path
    if shown then say (path ++ ['\n']) else return 0
  | _ => fail ("can't cd to ".toList ++ target)

def printDirectory : Builtin := fun _ => do
  let p := (← get).world.files.workdir
  say (Octets.ofText (if p.isEmpty then ['/'] else Path.text p) ++ ['\n'])

def umask : Builtin := fun args => do
  match args with
  | [] => say "0022\n".toList
  | ['-', 'S'] :: _ => say "u=rwx,g=rx,o=rx\n".toList
  | _ => return 0

/-! Options of scripts. -/

def getOption : Builtin := fun args => do
  match args with
  | letters :: name :: rest =>
    let s ← get
    let words := if rest.isEmpty then s.arguments else rest
    let index := ((value? s "OPTIND".toList).map Command.decimalValue).getD 1
    let quiet := letters.head? = some ':'
    let finish (index place status : Nat) (found : Text) (value : Option Text) : Run Nat := do
      match value with
      | some v => assign "OPTARG".toList v
      | none => put "OPTARG".toList none
      assign "OPTIND".toList (Nat.toDigits 10 index)
      assignChecked name found
      modify fun s => { s with optionPlace := place }
      return status
    let word := (words[index - 1]?).getD []
    let place := if s.optionPlace = 0 then 1 else s.optionPlace
    match word.head?, word.drop place with
    | some '-', c :: cs =>
      if place = 1 && word = ['-', '-'] then
        finish (index + 1) 0 1 ['?'] none
      else
        let (next, place) := if cs.isEmpty then (index + 1, 0) else (index, place + 1)
        let known := c ≠ ':' && letters.contains c
        if !known then
          unless quiet do
            let _ ← print 2 ("Illegal option -".toList ++ [c, '\n'])
          finish next place 0 ['?'] (if quiet then some [c] else none)
        else if (letters.dropWhile (· ≠ c))[1]? = some ':' then
          if !cs.isEmpty then finish (index + 1) 0 0 [c] (some cs)
          else
            match words[index]? with
            | some v => finish (index + 2) 0 0 [c] (some v)
            | none =>
              unless quiet do
                let _ ← print 2 ("No arg for -".toList ++ c :: " option\n".toList)
              finish next 0 0 (if quiet then [':'] else ['?']) (if quiet then some [c] else none)
        else finish next place 0 [c] (some [])
    | _, _ => finish index 0 1 ['?'] none
  | _ => fail "Usage: getopts optstring var [arg]".toList

/-! Aliases. -/

def setAlias : Builtin := fun args => do
  let shown (name text : Text) : Text := name ++ '=' :: singleQuoted text
  match args with
  | [] =>
    let lines := Glob.sort ((← get).aliases.map fun (name, t) => shown name t)
    say (lines.flatMap (· ++ ['\n']))
  | args =>
    let mut status := 0
    for t in args do
      match splitAssignment t with
      | (name, some value) =>
        modify fun s => { s with
          aliases := (name, value) :: s.aliases.filter fun entry => entry.1 ≠ name }
      | (name, none) =>
        match (← get).aliases.lookup name with
        | some text => let _ ← say (shown name text ++ ['\n'])
        | none =>
          let _ ← print 2 ("alias: ".toList ++ name ++ " not found\n".toList)
          status := 1
    return status

def unalias : Builtin := fun args => do
  let (found, args) ← flags "a" args
  unless found.isEmpty do
    modify fun s => { s with aliases := [] }
  let mut status := 0
  for t in args do
    if ((← get).aliases.lookup t).isNone then
      let _ ← print 2 ("unalias: ".toList ++ t ++ " not found\n".toList)
      status := 1
    modify fun s => { s with aliases := s.aliases.filter fun entry => entry.1 ≠ t }
  return status

/-! Leaving. -/

def leave (jump : Nat → Jump) : Builtin := fun args => do
  let n ← match args with
    | [] => pure 1
    | t :: _ => number t
  if n = 0 then
    fail ("Illegal number: ".toList ++ args.headD [])
  let n := min n (← get).loops
  if n = 0 then return 0
  setStatus 0
  throw (jump n)

/-- Ends the shell; from a trap with the status that was there before it, unless one is given. -/
def exit : Builtin := fun args => do
  match args, (← get).held with
  | t :: _, _ => setStatus ((← number t) % 256)
  | [], some n => setStatus n
  | [], none => pure ()
  throw .exit

def returnStatus : Builtin := fun args => do
  if let t :: _ := args then
    setStatus (← number t)
  throw .leaveFunction

def wait : Builtin := fun args => do
  match args.getLast? with
  | none => return 0
  | some t =>
    match t with
    | '%' :: _ => return 0
    | t =>
      let n ← number t
      match (← get).jobs.lookup n with
      | some status => return status.number
      | none => return 127

def candidates (path name : Text) : List Text :=
  (path.splitOn ':').map fun d => if d.isEmpty then name else d ++ '/' :: name

def search (files : Files) (path name : Text) : Except OsError Text :=
  go .notFound (candidates path name)
where
  go (e : OsError) : List Text → Except OsError Text
    | [] => .error e
    | file :: rest =>
      match files.find (Octets.toText file) with
      | .ok (_, node) => if node.isProgram then .ok file else go .accessDenied rest
      | .error reason => go (if reason = .notFound || reason = .notDirectory then e else reason) rest

def hash : Builtin := fun args => do
  let (found, args) ← flags "rv" args
  unless found.all (·.1 ≠ 'r') do
    modify fun s => { s with remembered := [] }
    return 0
  let path := (value? (← get) "PATH".toList).getD []
  let mut status := 0
  if args.isEmpty then
    let s ← get
    let lines := s.remembered.map fun name =>
      ((search s.world.files path name).toOption.getD name) ++ ['\n']
    let _ ← say lines.flatten
  for name in args do
    let s ← get
    match search s.world.files path name with
    | .ok _ => modify fun s => { s with remembered := name :: s.remembered }
    | .error e =>
      warn (name ++ ": ".toList ++ openFault "not found" e)
      status := 1
  return status

def find? (name : String) : Option Builtin :=
  match name with
  | ":" | "true" | "ulimit" | "times" | "jobs" | "fg" | "bg" => some fun _ => return 0
  | "false" => some fun _ => return 1
  | "[" => some (test true)
  | "test" => some (test false)
  | "alias" => some setAlias
  | "unalias" => some unalias
  | "break" => some (leave .stopLoops)
  | "continue" => some (leave .restartLoop)
  | "cd" | "chdir" => some changeDirectory
  | "echo" => some echo
  | "exit" => some exit
  | "export" => some exportNames
  | "getopts" => some getOption
  | "hash" => some hash
  | "kill" => some kill
  | "local" => some makeLocal
  | "printf" => some printf
  | "pwd" => some printDirectory
  | "read" => some read
  | "readonly" => some protectNames
  | "return" => some returnStatus
  | "set" => some set
  | "shift" => some shift
  | "trap" => some trap
  | "umask" => some umask
  | "unset" => some unset
  | "wait" => some wait
  | _ => none

end Builtin

end DatalogDoc.Shell
