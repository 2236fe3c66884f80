import DatalogDoc.Command.Cat
import DatalogDoc.Command.Echo
import DatalogDoc.Command.Env
import DatalogDoc.Command.Sed
import DatalogDoc.Shell.Invocation

/-!
# A self-contained machine

A host whose programs are the few tools that short preprocessor commands need, and the scripts among
its files. Running a program is a function of the files.
-/

namespace DatalogDoc.Machine

def tools : List (String × Tool) :=
  [("sh", .shell), ("dash", .shell), ("cat", .cat), ("echo", .echo), ("sed", .sed),
   ("true", .succeed), ("false", .fail), ("env", .env)]

def path (names : List String) : Path := names.map String.toList

def searched : List Path :=
  [path ["usr", "local", "sbin"], path ["usr", "local", "bin"], path ["usr", "sbin"],
   path ["usr", "bin"], path ["sbin"], path ["bin"]]

def toolDirectories : List Path := [path ["usr", "bin"], path ["bin"]]

def devices : List (List String × Device) :=
  [(["dev", "null"], .null), (["dev", "zero"], .null), (["dev", "full"], .full),
   (["dev", "random"], .null), (["dev", "urandom"], .null), (["dev", "tty"], .terminal),
   (["dev", "stdin"], .stream 0), (["dev", "stdout"], .stream 1), (["dev", "stderr"], .stream 2),
   (["dev", "fd", "0"], .stream 0), (["dev", "fd", "1"], .stream 1), (["dev", "fd", "2"], .stream 2),
   (["proc", "self", "fd", "0"], .stream 0), (["proc", "self", "fd", "1"], .stream 1),
   (["proc", "self", "fd", "2"], .stream 2)]

def directories : List Path :=
  searched ++ [path ["dev", "fd"], path ["proc", "self", "fd"], path ["tmp"], path ["etc"],
    path ["root"], path ["home"], path ["var", "tmp"], path ["usr", "lib"], path ["lib"]]

/-- A machine without files but its tools and devices, and with an empty working directory. -/
def bare (workdir : Path) : Files :=
  let files := (workdir :: directories).foldl Files.makeDirectory { nodes := [], workdir }
  let files := devices.foldl (fun files (p, d) => files.put (path p) (.device d)) files
  toolDirectories.foldl
    (fun files directory =>
      tools.foldl (fun files (name, t) => files.put (directory ++ [name.toList]) (.tool t)) files)
    files

/-! Programs. -/

mutual

/-- Runs a script, with a bound on the depth of the run. -/
def eval : Nat → (tested last : Bool) → Shell.Script → Shell.Run Unit
  | 0, _, _, _ => throw .exit
  | depth + 1, tested, last, script =>
    Shell.Runner.step ⟨eval depth, behaviour depth⟩ tested last script

def behaviour : Nat → Tool → Behaviour
  | 0, _, _ => return .exited 1
  | depth + 1, tool, p =>
    match tool with
    | .shell => Shell.Runner.shell ⟨eval depth, behaviour depth⟩ p
    | .cat => Command.cat p
    | .echo => Command.echo p
    | .sed => Command.sed (behaviour depth) p
    | .succeed => return .exited 0
    | .fail => return .exited 1
    | .env => Command.env (behaviour depth) p

end

def depth : Nat := 20000

def searchPath (search : List Path) : Text := [':'].intercalate (search.map Path.text)

/-- The parts that count when a name is told from a path: empty ones and, past the first, those
that stay where they are do not. -/
def components (t : Text) : List Text :=
  let parts := t.splitOn '/'
  let kept := parts.filter fun part => !part.isEmpty && part ≠ ['.']
  match parts with
  | [] :: _ :: _ => [] :: kept
  | ['.'] :: _ => ['.'] :: kept
  | _ => kept

/-- The files that a name may stand for: one if it is a path, else one in each directory. -/
def candidates (search : List Path) (files : Files) (program : Text) : List Text :=
  if program.isEmpty then []
  else if 1 < (components program).length then
    if program.head? = some '/' then [program]
    else
      let parts := (components program).filter (· ≠ ['.'])
      [Path.text files.workdir ++ Path.text parts]
  else
    search.map fun directory =>
      if program.head? = some '/' then program else Path.text directory ++ '/' :: program

def runImage (search : List Path) (files : Files) (image : Image) : Ended :=
  let start : System (Nat × Nat × Process) := do
    let input ← World.openChannel { target := .null, reads := true }
    let output ← World.openChannel { target := .pipe [], reads := true, writes := true }
    let errors ← World.openChannel { target := .pipe [], reads := true, writes := true }
    return (output, errors, {
      name := image.name, arguments := image.arguments
      descriptors := [(0, input), (1, output), (2, errors)]
      environment := [("PATH".toList, Octets.ofText (searchPath search)), ("HOME".toList, "/root".toList)]
      number := 100, parent := 1 })
  let act : System (Status × Bytes × Bytes) := do
    let (output, errors, p) ← start
    let status ← behaviour depth image.tool p
    let stdout ← World.readAll output
    let stderr ← World.readAll errors
    return (status, stdout.toOption.getD [], stderr.toOption.getD [])
  let ((status, stdout, stderr), world) := act.run { files }
  ⟨status, stdout, stderr, { world.files with workdir := files.workdir }⟩

def launch (search : List Path) (files : Files) (program : Text) (args : List Text) : Launch :=
  let isFound (file : Text) : Bool :=
    match files.find file with
    | .ok (_, node) => node.isProgram
    | .error _ => false
  match (candidates search files program).find? isFound with
  | none => .notFound
  | some file =>
    if args.any (·.contains '\x00') then .refused .nulByte
    else
      let name := Octets.ofText file
      match files.image name name (args.map Octets.ofText) Image.chain with
      | .error e => .refused (.system e)
      | .ok image => .ended (runImage search files image)

/-- The host with the given files, where the directories of `first` are searched before the usual
ones. -/
def host (first : List Path) (files : Files) : Host :=
  { files, launch := launch (first ++ searched) files }

end DatalogDoc.Machine
