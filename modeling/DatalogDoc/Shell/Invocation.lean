import DatalogDoc.Shell.Run

/-!
# Starting a shell

What a shell does with its arguments: options come first, then the text of a script or the name of
its file, and then the arguments of the script. Without a script the shell reads its standard input.
-/

namespace DatalogDoc.Shell

open Run

def Session.ofProcess (p : Process) (world : World) : Session :=
  let inherited := p.environment.filterMap fun (name, value) =>
    if isName name then some (name, ({ value := some value, exported := true } : Binding)) else none
  let own : List (Text × Text) :=
    [("IFS".toList, " \t\n".toList), ("OPTIND".toList, ['1']), ("PS1".toList, "$ ".toList),
     ("PS2".toList, "> ".toList), ("PS4".toList, "+ ".toList),
     ("PPID".toList, Nat.toDigits 10 p.parent),
     ("PWD".toList, Octets.ofText (Path.text world.files.workdir))]
  let bindings := own.map fun (name, value) =>
    (name, { value := some value, exported := (inherited.lookup name).isSome })
  { world, descriptors := p.descriptors, name := p.name, arguments := []
    bindings := bindings ++ inherited.filter fun entry => (own.lookup entry.1).isNone
    line := 0, traps := p.ignored.map (·, .ignore)
    number := p.number, parent := p.parent, real := p.number, ancestors := [p.parent] }

structure Source where
  given : Bool := false
  input : Bool := false

def Source.readLetters (on : Bool) (source : Source) : Text → List Text → Run (Source × List Text)
  | [], rest => return (source, rest)
  | 'c' :: cs, rest => readLetters on { source with given := true } cs rest
  | 'l' :: cs, rest => readLetters on source cs rest
  | c :: cs, rest => do
    let rest ← Builtin.setLetters on [c] rest
    readLetters on { source with input := source.input || (c = 's' && on) } cs rest

def Source.read (source : Source) : Nat → List Text → Run (Source × List Text)
  | 0, args => return (source, args)
  | fuel + 1, args => do
    match args with
    | ['-'] :: rest | ['-', '-'] :: rest => return (source, rest)
    | ('-' :: cs) :: rest =>
      let (source, rest) ← readLetters true source cs rest
      read source fuel rest
    | ('+' :: cs) :: rest =>
      let (source, rest) ← readLetters false source cs rest
      read source fuel rest
    | args => return (source, args)

namespace Runner

variable (r : Runner)

def runChannel (i : Nat) : Run Unit := do
  let bytes := (← system (World.readAll i)).toOption.getD []
  let _ ← r.runText true false false (Octets.ofBytes bytes)

def runInput : Run Unit := do
  match (← get).descriptors.lookup 0 with
  | some i => r.runChannel i
  | none => return

def invoke (args : List Text) : Run Unit := do
  let (source, args) ← Source.read {} (args.length + 1) args
  match source.given, args with
  | true, [] => fail "-c requires an argument".toList
  | true, script :: rest =>
    match rest with
    | name :: rest => modify fun s => { s with name, arguments := rest }
    | [] => pure ()
    let _ ← r.runText false false false script
    if source.input then
      r.runInput
  | false, [] => r.runInput
  | false, file :: rest =>
    if source.input then
      modify fun s => { s with arguments := args }
      r.runInput
    else
      match ← system (Process.openFile (← get).descriptors file .read) with
      | .error e => fail ("cannot open ".toList ++ file ++ ": ".toList ++ openFault "No such file" e)
      | .ok i =>
        modify fun s => { s with name := file, arguments := rest }
        r.runChannel i

def shell : Behaviour := fun p world =>
  let (status, s) := r.conclude (r.invoke p.arguments) (Session.ofProcess p world)
  (status, s.world)

end Runner

end DatalogDoc.Shell
