import DatalogDoc.Shell.Expansion

/-!
# Redirections

A redirection whose words are expanded links a descriptor to a file, to another descriptor or to a
document. All words are expanded before the first link is made.
-/

namespace DatalogDoc.Shell

open Run

inductive Link
  | file (descriptor : Nat) (mode : FileMode) (name : Text)
  | copy (descriptor : Nat) (source : Option Nat)
  | document (descriptor : Nat) (word : Word)

namespace Link

/-- Expands the word of a redirection. The word of a document waits until the document is read. -/
def ofRedirection (capture : Capture) : Redirection → Run Link
  | .file n mode name => return .file n mode (← Expansion.string capture name)
  | .copy n source => do
    match ← Expansion.string capture source with
    | ['-'] => return .copy n none
    | [c] =>
      if c.isDigit then return .copy n (some (c.toNat - 48))
      else fail "Syntax error: Bad fd number".toList
    | _ => fail "Syntax error: Bad fd number".toList
  | .document n number => do
    return .document n (((← get).documents.lookup number).getD [])

def access (protective : Bool) : FileMode → Access
  | .read => .read
  | .write => .write protective
  | .force => .write false
  | .append => .write true
  | .readWrite => .readWrite

def isProtected (s : Session) (mode : FileMode) (name : Text) : Bool :=
  s.options.protective && mode = .write &&
    match s.world.files.find (Octets.toText name) with
    | .ok (_, .regular ..) | .ok (_, .tool _) => true
    | _ => false

def openFile (n : Nat) (mode : FileMode) (name : Text) : Run Unit := do
  let s ← get
  let refused (e : OsError) : Run Unit :=
    if mode = .read then fail ("cannot open ".toList ++ name ++ ": ".toList ++ openFault "No such file" e)
    else fail ("cannot create ".toList ++ name ++ ": ".toList ++ openFault "Directory nonexistent" e)
  if isProtected s mode name then
    refused .alreadyExists
  else
    match ← system (Process.openFile s.descriptors name (access s.options.protective mode)) with
    | .ok i => attach n (some i)
    | .error e => refused e

def make (capture : Capture) : Link → Run Unit
  | .file n mode name => openFile n mode name
  | .copy n none => attach n none
  | .copy n (some m) => do
    if n ≠ m then
      match (← get).descriptors.lookup m with
      | some i => attach n (some i)
      | none => fail (Nat.toDigits 10 m ++ ": Bad file descriptor".toList)
  | .document n word => do
    let t ← Expansion.string capture word
    let i ← system (World.openChannel { target := .pipe [Octets.toBytes t], reads := true })
    attach n (some i)

def makeAll (capture : Capture) (links : List Link) : Run Bool := do
  try
    links.forM (make capture)
    return true
  catch
    | .error =>
      setStatus 2
      return false
    | j => throw j

end Link

end DatalogDoc.Shell
