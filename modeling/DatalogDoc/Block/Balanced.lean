import DatalogDoc.Block
import DatalogDoc.Lexeme
import DatalogDoc.Location

/-!
# Blocks up to the balancing brace

A scanner walks over the lexemes of a text and keeps the blocks that open outside every other
block. Only braces in code count. A fault stops the scanner behind the lexeme at fault, and the next
call goes on from there as if the text began there.
-/

namespace DatalogDoc

inductive Fault
  | openComment
  | openString
  | openBlock
deriving DecidableEq

def Fault.message : Fault → Text
  | openComment => "Unterminated block comment".toList
  | openString => "Unterminated string literal".toList
  | openBlock => "Unclosed '\x7b'".toList

structure ScanError where
  fault : Fault
  location : Location
deriving DecidableEq

def ScanError.message (e : ScanError) : Text :=
  "Scan error at line ".toList ++ (Nat.repr e.location.line).toList
    ++ ", column ".toList ++ (Nat.repr e.location.column).toList
    ++ ": ".toList ++ e.fault.message

def Lexeme.fault? : Lexeme → Option Fault
  | openComment _ => some .openComment
  | openString _ => some .openString
  | _ => none

structure OpenBlock where
  name : Option Text
  location : Location
  /-- The lexemes of its body so far, the last one first. -/
  lexemes : List Lexeme
  depth : Nat

namespace OpenBlock

def push (b : OpenBlock) (l : Lexeme) : OpenBlock := { b with lexemes := l :: b.lexemes }

def body (b : OpenBlock) : Text := b.lexemes.reverse.flatMap Lexeme.text

def close (b : OpenBlock) : Option Block := b.name.map fun name => ⟨name, b.body⟩

end OpenBlock

inductive Context
  /-- Outside every block, behind a run of name characters, read backwards. -/
  | outside (run : Text)
  | inside (block : OpenBlock)

namespace Context

/-- Takes one more lexeme without a fault, read at the given place, and gives the block that it
closes, if any. A closing brace outside every block means nothing. -/
def step (here : Location) : Context → Lexeme → Context × Option Block
  | outside run, .code '{' => (inside ⟨Block.nameOfRun? run, here, [], 0⟩, none)
  | outside run, .code c => (outside (if Block.isNameChar c then c :: run else []), none)
  | outside _, _ => (outside [], none)
  | inside b, .code '}' =>
    match b.depth with
    | 0 => (outside [], b.close)
    | depth + 1 => (inside { b.push (.code '}') with depth }, none)
  | inside b, .code '{' => (inside { b.push (.code '{') with depth := b.depth + 1 }, none)
  | inside b, l => (inside (b.push l), none)

/-- The outcome at the end of the text: an open block is a fault of its opening brace. -/
def finish : Context → Except ScanError (List Block)
  | outside _ => .ok []
  | inside b => .error ⟨.openBlock, b.location⟩

end Context

structure Scanner where
  lexemes : List Lexeme
  location : Location

namespace Scanner

def ofText (t : Text) : Scanner := ⟨Lexeme.lexemes t, .start⟩

def rest (s : Scanner) : Text := s.lexemes.flatMap Lexeme.text

/-- Scans on in a context: the blocks closed from here on or the first fault, and the scanner behind
what was read. -/
def scan (here : Location) : Context → List Lexeme → Except ScanError (List Block) × Scanner
  | ctx, [] => (ctx.finish, ⟨[], here⟩)
  | ctx, l :: ls =>
    let there := here.after l.text
    match l.fault? with
    | some fault => (.error ⟨fault, here⟩, ⟨ls, there⟩)
    | none =>
      let (ctx', found) := ctx.step here l
      let (outcome, scanner) := scan there ctx' ls
      (outcome.map (found.toList ++ ·), scanner)

def blocks (s : Scanner) : Except ScanError (List Block) × Scanner :=
  scan s.location (.outside []) s.lexemes

def repeated (s : Scanner) : Nat → List (Except ScanError (List Block))
  | 0 => []
  | n + 1 =>
    let (outcome, s') := s.blocks
    outcome :: s'.repeated n

end Scanner

namespace Block

def balanced (t : Text) : Except ScanError (List Block) := (Scanner.ofText t).blocks.1

end Block

end DatalogDoc
