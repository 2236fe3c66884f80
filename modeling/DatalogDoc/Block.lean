import DatalogDoc.Text

/-!
# Named blocks

A block is written as a name, one space, and a body in braces.
-/

namespace DatalogDoc

structure Block where
  name : Text
  body : Text
deriving DecidableEq

namespace Block

def isNameChar (c : Char) : Bool := c.isAlpha || c == ' ' || c == '-'

/-- The name in front of an opening brace, given the run of name characters that ends there, read
backwards. The last space sets the name off and is no part of it. -/
def nameOfRun? : Text → Option Text
  | ' ' :: c :: run => some (c :: run).reverse
  | _ => none

/-- The name that the text before an opening brace gives to the block. -/
def nameBefore? (before : Text) : Option Text :=
  nameOfRun? (before.reverse.takeWhile isNameChar)

def print (b : Block) : Text := b.name ++ [' ', '{'] ++ b.body ++ ['}']

end Block

end DatalogDoc
