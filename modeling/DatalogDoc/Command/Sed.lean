import DatalogDoc.Command.Options
import DatalogDoc.Command.Sed.Help
import DatalogDoc.Command.Sed.Run

/-!
# Editing lines

`sed` runs a script over the lines of its files. The script is put together from the options, each
piece of it read when its option is, and without such options it is the first operand.
-/

namespace DatalogDoc.Command

namespace Sed

def forms : List OptionForm :=
  [⟨'b', "binary", .nothing⟩, ⟨'r', "regexp-extended", .nothing⟩, ⟨'E', "", .nothing⟩,
   ⟨'\x01', "debug", .nothing⟩, ⟨'i', "in-place", .attached⟩, ⟨'e', "expression", .value⟩,
   ⟨'f', "file", .value⟩, ⟨'l', "line-length", .value⟩, ⟨'z', "null-data", .nothing⟩,
   ⟨'z', "zero-terminated", .nothing⟩, ⟨'n', "quiet", .nothing⟩, ⟨'\x02', "posix", .nothing⟩,
   ⟨'n', "silent", .nothing⟩, ⟨'\x03', "sandbox", .nothing⟩, ⟨'s', "separate", .nothing⟩,
   ⟨'u', "unbuffered", .nothing⟩, ⟨'\x04', "version", .nothing⟩, ⟨'\x05', "help", .nothing⟩,
   ⟨'\x06', "follow-symlinks", .nothing⟩]

structure Preparation where
  reader : Reader := {}
  hasScript : Bool := false
  channels : List (Text × Nat) := []
  sources : List (Text × Nat) := []
  quiet : Bool := false
  separate : Bool := false
  inPlace : Option Text := none
  width : Nat := 70
  unbuffered : Bool := false
  strict : Bool := false

inductive Refusal
  | fault (f : Fault)
  | help
  | version

abbrev Prepare := ExceptT Refusal (StateT Preparation System)

namespace Prepare

variable (p : Process)

def openFor (opening : Opening) : Prepare Unit := do
  let s ← get
  match opening with
  | .toWrite name =>
    if (s.channels.lookup name).isNone then
      match ← (Process.openFile p.descriptors name (.write false) : System _) with
      | .ok i => set { s with channels := (name, i) :: s.channels }
      | .error e =>
        throw (.fault (.failure
          ("couldn't open file ".toList ++ name ++ ": ".toList ++ e.description)))
  | .toRead name =>
    if (s.sources.lookup name).isNone && name ≠ "/dev/stdin".toList then
      if let .ok i ← (Process.openFile p.descriptors name .read : System _) then
        set { s with sources := (name, i) :: s.sources }

def read {α : Type} (act : Reading α) : Prepare α := do
  let (result, reader) := act.run.run (← get).reader
  modify fun s => { s with reader := { reader with openings := [] }, hasScript := true }
  for opening in reader.openings.reverse do
    openFor p opening
  match result with
  | .ok value => return value
  | .error f => throw (.fault f)

def readFile (name : Text) : Prepare Unit := do
  let content ← (if name = ['-'] then return .ok (← p.readInput)
    else do
      match ← Process.openFile p.descriptors name .read with
      | .error e => return .error e
      | .ok i => return .ok (← World.readAll i) : System (Except OsError (Except OsError Bytes)))
  match content with
  | .error e =>
    throw (.fault (.failure ("couldn't open file ".toList ++ name ++ ": ".toList ++ e.description)))
  | .ok content => read p (Reading.file name (Octets.ofBytes (content.toOption.getD [])))

def option : Char × Text → Prepare Unit
  | ('n', _) => modify fun s => { s with quiet := true }
  | ('e', script) => read p (Reading.expression script)
  | ('f', name) => readFile p name
  | ('r', _) | ('E', _) => modify fun s => { s with reader := { s.reader with extended := true } }
  | ('s', _) => modify fun s => { s with separate := true }
  | ('i', suffix) => modify fun s => { s with separate := true, inPlace := some suffix }
  | ('l', width) => modify fun s => { s with width := decimalValue width }
  | ('u', _) => modify fun s => { s with unbuffered := true }
  | ('z', _) => modify fun s => { s with reader := { s.reader with zero := true } }
  | ('\x02', _) => modify fun s => { s with strict := true }
  | ('\x03', _) => modify fun s => { s with reader := { s.reader with sandboxed := true } }
  | ('\x04', _) => throw .version
  | ('\x05', _) => throw .help
  | _ => return

/-- Reads what the command line says: the script and the names of the files, or nothing if there is
no script. -/
def commandLine (line : CommandLine) : Prepare (Option (Script × List Text)) := do
  for o in line.options do
    option p o
  if line.fault.isSome then
    return none
  let names ← match (← get).hasScript, line.operands with
    | true, names => pure (some names)
    | false, [] => pure none
    | false, script :: names => do
      read p (Reading.expression script)
      pure (some names)
  match names with
  | none => return none
  | some names =>
    let script ← read p Reading.finish
    if names.isEmpty && (← get).inPlace.isSome then
      throw (.fault (.failure "no input files".toList))
    return some (script, if names.isEmpty then [['-']] else names)

end Prepare

def runCommand (tool : Tool → Behaviour) (p : Process) (command : Text) : System Text := do
  let pipe ← World.openChannel { target := .pipe [], reads := true, writes := true }
  let number := (← get).youngest + 1
  modify fun w => { w with youngest := number }
  let _ ← tool .shell { p with
    name := "sh".toList, arguments := [['-', 'c'], command], number, parent := p.number
    descriptors := (1, pipe) :: p.descriptors.filter fun d => d.1 ≠ 1 }
  return Octets.ofBytes ((← World.readAll pipe).toOption.getD [])

def deliver (p : Process) (e : Editor) : System Bool := do
  let mut ok := true
  for (name, i) in e.channels.reverse do
    let text := ((e.written.lookup (.file name)).getD []).reverse.flatten
    if let .error reason ← World.write i (Octets.toBytes text) then
      p.complain (p.name ++ ": couldn't flush <unknown>: ".toList ++ reason.description)
      ok := false
  match ← p.write 1 ((e.written.lookup .stdout).getD []).reverse.flatten with
  | .ok _ => return ok
  | .error reason =>
    let verb := if reason = .badDescriptor then "close" else "flush"
    p.complain
      (p.name ++ ": couldn't ".toList ++ verb.toList ++ " stdout: ".toList ++ reason.description)
    return false

def edit (setting : Setting) (e : Editor) : System Status := do
  let p := setting.process
  let (result, e) ← (Edit.all setting).run.run e
  let code ← match result with
    | .ok _ => pure (if e.unreadable then 2 else 0)
    | .error (.quit code) => pure (if e.unreadable then 2 else code)
    | .error (.fault f) => do
      p.complain (p.name ++ ": ".toList ++ f.message)
      pure f.code
  return .exited (if ← deliver p e then code else 4)

end Sed

def sed (tool : Tool → Behaviour) : Behaviour := fun p => do
  let line := CommandLine.read Sed.forms p.arguments
  let (result, s) ← (Sed.Prepare.commandLine p line).run.run {}
  match result with
  | .error (.fault f) =>
    p.complain (p.name ++ ": ".toList ++ f.message)
    return .exited f.code
  | .error .help =>
    let _ ← p.write 1 (Sed.usage p.name ++ Sed.contact)
    return .exited 0
  | .error .version =>
    let _ ← p.write 1 "sed (GNU sed) 4.9\n".toList
    return .exited 0
  | .ok none =>
    if let some reason := line.fault then
      p.complain (p.name ++ ": ".toList ++ reason)
    let _ ← p.write 2 (Sed.usage p.name)
    return .exited 1
  | .ok (some (script, files)) =>
    Sed.edit
      { process := p, script, quiet := s.quiet || s.reader.quiet, separate := s.separate
        inPlace := s.inPlace, width := s.width, zero := s.reader.zero, unbuffered := s.unbuffered
        strict := s.strict, position := s.reader.position, shell := Sed.runCommand tool p }
      { files, channels := s.channels, sources := s.sources }

end DatalogDoc.Command
