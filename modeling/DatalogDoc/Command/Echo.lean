import DatalogDoc.Command.Number
import DatalogDoc.Host.World

/-!
# Printing arguments

`echo` prints its arguments in a line. The shell has one of its own, which always reads escapes; the
program reads them only when told to.
-/

namespace DatalogDoc.Command

def letterEscape? : Char → Option Char
  | 'a' => some '\x07'
  | 'b' => some '\x08'
  | 'e' => some '\x1b'
  | 'f' => some '\x0c'
  | 'n' => some '\n'
  | 'r' => some '\r'
  | 't' => some '\t'
  | 'v' => some '\x0b'
  | '\\' => some '\\'
  | _ => none

def byteOf (n : Nat) : Char := Octets.ofByte n.toUInt8

/-- Which escapes are read beyond the one-letter ones and up to three octal digits. -/
structure Escapes where
  /-- A zero may stand before the octal digits. -/
  zero : Bool := false
  hex : Bool := false

/-- Reads an escape after its backslash; where there is none, the backslash stands for itself. -/
def Escapes.read (e : Escapes) : Text → Char × Text
  | [] => ('\\', [])
  | c :: t =>
    match letterEscape? c with
    | some b => (b, t)
    | none =>
      if c = '0' ∧ e.zero then
        let (n, rest) := readDigits 8 3 0 t
        (byteOf n, rest)
      else if isDigitIn 8 c then
        let (n, rest) := readDigits 8 3 0 (c :: t)
        (byteOf n, rest)
      else if e.hex ∧ c = 'x' ∧ t.head?.any (isDigitIn 16) then
        let (n, rest) := readDigits 16 2 0 t
        (byteOf n, rest)
      else
        ('\\', c :: t)

def Escapes.expand (e : Escapes) : Nat → Text → Text × Bool
  | 0, t => (t, false)
  | _ + 1, [] => ([], false)
  | _ + 1, '\\' :: 'c' :: _ => ([], true)
  | fuel + 1, '\\' :: t =>
    let (c, rest) := e.read t
    let (more, cut) := e.expand fuel rest
    (c :: more, cut)
  | fuel + 1, c :: t =>
    let (more, cut) := e.expand fuel t
    (c :: more, cut)

def unwords (words : List Text) : Text := [' '].intercalate words

def shellEcho (args : List Text) : Text :=
  let (newline, args) := match args with
    | ['-', 'n'] :: rest => (false, rest)
    | args => (true, args)
  let t := unwords args
  let (out, cut) := Escapes.expand { zero := true } t.length t
  if newline && !cut then out ++ ['\n'] else out

structure EchoOptions where
  newline : Bool := true
  escapes : Bool := false

def EchoOptions.set? (o : EchoOptions) : Char → Option EchoOptions
  | 'n' => some { o with newline := false }
  | 'e' => some { o with escapes := true }
  | 'E' => some { o with escapes := false }
  | _ => none

def EchoOptions.read (o : EchoOptions) : List Text → EchoOptions × List Text
  | ('-' :: c :: cs) :: rest =>
    match (c :: cs).foldlM EchoOptions.set? o with
    | some o => o.read rest
    | none => (o, ('-' :: c :: cs) :: rest)
  | args => (o, args)

def echo : Behaviour := fun p => do
  let (o, args) := EchoOptions.read {} p.arguments
  let t := unwords args
  let (out, cut) :=
    if o.escapes then Escapes.expand { zero := true, hex := true } t.length t else (t, false)
  match ← p.write 1 (if o.newline && !cut then out ++ ['\n'] else out) with
  | .ok _ => return .exited 0
  | .error e =>
    p.complain (p.name ++ ": write error: ".toList ++ e.description)
    return .exited 1

end DatalogDoc.Command
