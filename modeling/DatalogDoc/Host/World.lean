import DatalogDoc.Host.Process
import DatalogDoc.Text.Octets

/-!
# Open files and processes

Running programs share a world: the files, and the channels through which these are read and
written. A process reaches a channel by a descriptor; descriptors that were copied share the place
in the file. All strings are strings of bytes.
-/

namespace DatalogDoc

inductive Target
  | null
  | full
  | directory
  /-- Bytes on their way, the latest first. -/
  | pipe (chunks : List Bytes)
  | file (path : Path) (offset : Nat)

structure Channel where
  target : Target
  reads : Bool := false
  writes : Bool := false
  appends : Bool := false

structure World where
  files : Files
  channels : Array Channel := #[]
  youngest : Nat := 100
  /-- Signals on their way, each with the process that it is for. -/
  signals : List (Nat × Nat) := []

abbrev System := StateM World

abbrev Descriptors := List (Nat × Nat)

namespace World

def openChannel (c : Channel) : System Nat := fun w =>
  (w.channels.size, { w with channels := w.channels.push c })

def channel? (w : World) (i : Nat) : Option Channel := w.channels[i]?

def setTarget (w : World) (i : Nat) (target : Target) : World :=
  { w with channels := w.channels.modify i fun c => { c with target } }

def ahead (w : World) (i : Nat) : Except OsError Bytes :=
  match w.channel? i with
  | none => .error .badDescriptor
  | some c =>
    if !c.reads then .error .badDescriptor
    else
      match c.target with
      | .null | .full => .ok []
      | .directory => .error .isDirectory
      | .pipe chunks => .ok chunks.reverse.flatten
      | .file path offset =>
        match w.files.get? path with
        | some (.regular content _) => .ok (content.drop offset)
        | _ => .ok []

def skip (i n : Nat) : System Unit := modify fun w =>
  match (w.channel? i).map Channel.target with
  | some (.pipe chunks) => w.setTarget i (.pipe [chunks.reverse.flatten.drop n])
  | some (.file path offset) => w.setTarget i (.file path (offset + n))
  | _ => w

/-- Puts bytes that were read last back. Of a pipe they are gone unless they are kept. -/
def unread (i : Nat) (bytes : Bytes) (keeps : Bool) : System Unit := modify fun w =>
  match (w.channel? i).map Channel.target with
  | some (.pipe chunks) => if keeps then w.setTarget i (.pipe (chunks ++ [bytes])) else w
  | some (.file path offset) => w.setTarget i (.file path (offset - bytes.length))
  | _ => w

def readAll (i : Nat) : System (Except OsError Bytes) := do
  let found := (← get).ahead i
  if let .ok bytes := found then
    skip i bytes.length
  return found

def overwrite (content bytes : Bytes) (offset : Nat) : Bytes :=
  content.take offset ++ List.replicate (offset - content.length) 0 ++ bytes
    ++ content.drop (offset + bytes.length)

def write (i : Nat) (bytes : Bytes) : System (Except OsError Unit) := fun w =>
  match w.channel? i with
  | none => (.error .badDescriptor, w)
  | some c =>
    if !c.writes then (.error .badDescriptor, w)
    else
      match c.target with
      | .null => (.ok (), w)
      | .full => (if bytes.isEmpty then .ok () else .error .noSpace, w)
      | .directory => (.error .isDirectory, w)
      | .pipe chunks => (.ok (), w.setTarget i (.pipe (bytes :: chunks)))
      | .file path offset =>
        match w.files.get? path with
        | some (.regular content executable) =>
          let start := if c.appends then content.length else offset
          let files := w.files.put path (.regular (overwrite content bytes start) executable)
          (.ok (), { w with files }.setTarget i (.file path (start + bytes.length)))
        | _ => (.ok (), w)

end World

inductive Access
  | read
  | write (append : Bool)
  | readWrite
deriving DecidableEq

namespace Access

def reads : Access → Bool
  | write _ => false
  | _ => true

def writes : Access → Bool
  | read => false
  | _ => true

def appends : Access → Bool
  | write append => append
  | _ => false

end Access

structure Process where
  name : Text
  arguments : List Text
  descriptors : Descriptors
  environment : List (Text × Text) := []
  number : Nat
  parent : Nat
  ignored : List Nat := []

namespace Process

def descriptorOf? (p : Path) : Option Nat :=
  let number? (t : Text) : Option Nat :=
    if t.isEmpty || !t.all Char.isDigit then none
    else some (t.foldl (fun n c => 10 * n + (c.toNat - 48)) 0)
  match p.map String.ofList with
  | ["dev", "stdin"] => some 0
  | ["dev", "stdout"] => some 1
  | ["dev", "stderr"] => some 2
  | ["dev", "fd", n] => number? n.toList
  | ["proc", "self", "fd", n] => number? n.toList
  | _ => none

/-- Opens a file again through a descriptor that is open already. A pipe is shared; a file is read
and written from its start. -/
def reopen (descriptors : Descriptors) (n : Nat) (access : Access) :
    System (Except OsError Nat) := do
  let w ← get
  match descriptors.lookup n with
  | none => return .error .notFound
  | some i =>
    match (w.channel? i).map Channel.target with
    | none => return .error .notFound
    | some .directory => return if access = .read then .ok i else .error .isDirectory
    | some (.pipe _) =>
      set { w with channels := w.channels.modify i fun c =>
        { c with reads := c.reads || access.reads, writes := c.writes || access.writes } }
      return .ok i
    | some (.file path _) =>
      if let some (.regular _ executable) := w.files.get? path then
        if access = .write false then
          set { w with files := w.files.put path (.regular [] executable) }
      return .ok (← World.openChannel
        { target := .file path 0, reads := access.reads, writes := access.writes
          appends := access.appends })
    | some target =>
      return .ok (← World.openChannel { target, reads := access.reads, writes := access.writes })

def openFile (descriptors : Descriptors) (name : Text) (access : Access) :
    System (Except OsError Nat) := do
  let w ← get
  let t := Octets.toText name
  let openAs (target : Target) : System (Except OsError Nat) := do
    return .ok (← World.openChannel
      { target, reads := access.reads, writes := access.writes, appends := access.appends })
  match (w.files.resolve t).toOption.bind descriptorOf? with
  | some n => reopen descriptors n access
  | none =>
    if access = .read then
      match w.files.find t with
      | .error e => return .error e
      | .ok (_, .directory) => openAs .directory
      | .ok (p, .regular ..) => openAs (.file p 0)
      | .ok (_, .device .terminal) => return .error .noDevice
      | .ok (_, .device .full) => openAs .full
      | .ok _ => openAs .null
    else
      match w.files.create t (access ≠ .write false) with
      | .error e => return .error e
      | .ok (p, files) =>
        set { w with files }
        match files.get? p with
        | some (.device .full) => openAs .full
        | some (.device _) => openAs .null
        | _ => openAs (.file p 0)

def readFile (p : Process) (name : Text) : System (Except OsError Bytes) := do
  match ← openFile p.descriptors name .read with
  | .error e => return .error e
  | .ok i => World.readAll i

def readInput (p : Process) : System (Except OsError Bytes) :=
  match p.descriptors.lookup 0 with
  | none => return .error .badDescriptor
  | some i => World.readAll i

def write (p : Process) (descriptor : Nat) (t : Text) : System (Except OsError Unit) :=
  match p.descriptors.lookup descriptor with
  | none => return .error .badDescriptor
  | some i => World.write i (Octets.toBytes t)

def complain (p : Process) (t : Text) : System Unit := do
  let _ ← p.write 2 (t ++ ['\n'])

end Process

abbrev Behaviour := Process → System Status

end DatalogDoc
