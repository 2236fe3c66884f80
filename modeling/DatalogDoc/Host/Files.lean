import DatalogDoc.Text.Utf8

/-!
# Files

A tree of files with a working directory. A path is resolved part by part, and each part needs an
existing directory to stand in.
-/

namespace DatalogDoc

inductive OsError
  | notFound
  | noDevice
  | badFormat
  | badDescriptor
  | accessDenied
  | alreadyExists
  | notDirectory
  | isDirectory
  | noSpace
  | nameTooLong
  | tooManyLinks
  | other (code : Nat) (description : Text)
deriving DecidableEq

namespace OsError

def code : OsError → Nat
  | notFound => 2
  | noDevice => 6
  | badFormat => 8
  | badDescriptor => 9
  | accessDenied => 13
  | alreadyExists => 17
  | notDirectory => 20
  | isDirectory => 21
  | noSpace => 28
  | nameTooLong => 36
  | tooManyLinks => 40
  | other code _ => code

def description : OsError → Text
  | notFound => "No such file or directory".toList
  | noDevice => "No such device or address".toList
  | badFormat => "Exec format error".toList
  | badDescriptor => "Bad file descriptor".toList
  | accessDenied => "Permission denied".toList
  | alreadyExists => "File exists".toList
  | notDirectory => "Not a directory".toList
  | isDirectory => "Is a directory".toList
  | noSpace => "No space left on device".toList
  | nameTooLong => "File name too long".toList
  | tooManyLinks => "Too many levels of symbolic links".toList
  | other _ description => description

def message (e : OsError) : Text :=
  e.description ++ " (os error ".toList ++ (Nat.repr e.code).toList ++ ")".toList

end OsError

inductive Tool
  | shell
  | cat
  | echo
  | sed
  | succeed
  | fail
  | env
deriving DecidableEq

inductive Device
  /-- Swallows what is written to it. -/
  | null
  /-- Has no room for what is written to it. -/
  | full
  /-- Is not connected. -/
  | terminal
  /-- Stands for a stream of the program that opens it. -/
  | stream (descriptor : Nat)
deriving DecidableEq

inductive Node
  | directory
  | regular (content : Bytes) (executable : Bool)
  | tool (t : Tool)
  | device (d : Device)
deriving DecidableEq

namespace Node

def isDirectory : Node → Bool
  | directory => true
  | _ => false

def isProgram : Node → Bool
  | regular _ executable => executable
  | tool _ => true
  | _ => false

end Node

abbrev Path := List Text

def Path.text (p : Path) : Text := p.flatMap fun part => '/' :: part

structure Files where
  nodes : List (Path × Node)
  workdir : Path

namespace Files

def get? (files : Files) (p : Path) : Option Node :=
  if p = [] then some .directory else files.nodes.lookup p

def put (files : Files) (p : Path) (node : Node) : Files :=
  { files with nodes := (p, node) :: files.nodes.filter fun entry => entry.1 != p }

theorem get?_put_self (files : Files) {p : Path} (h : p ≠ []) (node : Node) :
    (files.put p node).get? p = some node := by
  simp [get?, put, h]

private theorem lookup_filter_ne {p q : Path} (h : q ≠ p) (nodes : List (Path × Node)) :
    (nodes.filter fun entry => entry.1 != p).lookup q = nodes.lookup q := by
  induction nodes with
  | nil => rfl
  | cons entry nodes ih =>
    obtain ⟨r, node⟩ := entry
    by_cases hr : r = p
    · subst hr
      have hq : (q == r) = false := beq_false_of_ne h
      simp [List.lookup_cons, ih, hq]
    · simp [List.lookup_cons, hr, ih]

theorem get?_put_of_ne (files : Files) {p q : Path} (h : q ≠ p) (node : Node) :
    (files.put p node).get? q = files.get? q := by
  have hq : (q == p) = false := beq_false_of_ne h
  simp [get?, put, List.lookup_cons, hq, lookup_filter_ne h]

def follow (here : Path) (part : Text) : Path :=
  if part = [] ∨ part = ['.'] then here
  else if part = ['.', '.'] then here.dropLast
  else here ++ [part]

def nameLimit : Nat := 255

def pathLimit : Nat := 4095

def enter (files : Files) (here : Path) (part : Text) : Except OsError Path :=
  match files.get? here with
  | none => .error .notFound
  | some .directory =>
    if nameLimit < (Utf8.encode part).length then .error .nameTooLong else .ok (follow here part)
  | some _ => .error .notDirectory

/-- The place that a path written as text names. Nothing need be there, but all that leads to it
is. -/
def resolve (files : Files) (t : Text) : Except OsError Path :=
  if t = [] ∨ '\x00' ∈ t then
    .error .notFound
  else if pathLimit < (Utf8.encode t).length then
    .error .nameTooLong
  else
    let start := if t.head? = some '/' then [] else files.workdir
    (t.splitOn '/').foldlM files.enter start

def find (files : Files) (t : Text) : Except OsError (Path × Node) := do
  let p ← files.resolve t
  match files.get? p with
  | some node => .ok (p, node)
  | none => .error .notFound

def exists? (files : Files) (t : Text) : Bool := (files.find t).isOk

def read (files : Files) (t : Text) : Except OsError Bytes := do
  match (← files.find t).2 with
  | .directory => .error .isDirectory
  | .regular content _ => .ok content
  | .device .terminal => .error .noDevice
  | .tool _ | .device _ => .ok []

/-- Opens what is at a place for writing: it is made if missing, and emptied unless its content is
kept. -/
def createAt (files : Files) (p : Path) (keep : Bool) : Except OsError (Path × Files) :=
  match files.get? p with
  | some .directory => .error .isDirectory
  | some (.regular content executable) =>
    .ok (p, files.put p (.regular (if keep then content else []) executable))
  | some (.tool _) => .ok (p, files.put p (.regular [] true))
  | some (.device .terminal) => .error .noDevice
  | some (.device _) => .ok (p, files)
  | none => .ok (p, files.put p (.regular [] false))

/-- Opens the place that a path written as text names for writing. -/
def create (files : Files) (t : Text) (keep : Bool) : Except OsError (Path × Files) := do
  let stem := (t.reverse.dropWhile (· = '/')).reverse
  if stem = [] ∧ t ≠ [] then .error .isDirectory
  let p ← files.resolve stem
  if stem ≠ t then .error .isDirectory
  files.createAt p keep

/-- Adds bytes at the end of a regular file; devices keep nothing. -/
def append (files : Files) (p : Path) (bytes : Bytes) : Files :=
  match files.get? p with
  | some (.regular content executable) => files.put p (.regular (content ++ bytes) executable)
  | _ => files

def place (files : Files) (t : Text) : Path :=
  (t.splitOn '/').foldl follow (if t.head? = some '/' then [] else files.workdir)

def makeDirectory (files : Files) (p : Path) : Files :=
  (List.range p.length).foldl
    (fun files n =>
      let p := p.take (n + 1)
      if (files.get? p).isSome then files else files.put p .directory)
    files

def addFile (files : Files) (t : Text) (content : Bytes) (executable : Bool) : Files :=
  let p := files.place t
  (files.makeDirectory p.dropLast).put p (.regular content executable)

def addDirectory (files : Files) (t : Text) : Files := files.makeDirectory (files.place t)

def names (files : Files) (directory : Path) : List Text :=
  files.nodes.filterMap fun (p, _) =>
    if p.dropLast = directory then p.getLast? else none

def listing (files : Files) : List (Text × Bytes) :=
  files.nodes.filterMap fun
    | (p, .regular content _) =>
      if files.workdir.isPrefixOf p then
        some ((Path.text (p.drop files.workdir.length)).drop 1, content)
      else
        none
    | _ => none

end Files

end DatalogDoc
