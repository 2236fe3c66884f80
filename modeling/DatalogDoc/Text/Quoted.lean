import DatalogDoc.Text.Visible

/-!
# Quoted texts

A quoted text stands in double quotes, with escapes for these, for backslashes and for all that
would not show.
-/

namespace DatalogDoc

def hexadecimal (n : Nat) : Text := Nat.toDigits 16 n

/-- The escape that names a code point. -/
def codePointEscape (c : Char) : Text :=
  '\\' :: 'u' :: '\x7b' :: hexadecimal c.toNat ++ ['\x7d']

def quoteChar (c : Char) : Text :=
  match c with
  | '\x00' => ['\\', '0']
  | '\t' => ['\\', 't']
  | '\n' => ['\\', 'n']
  | '\r' => ['\\', 'r']
  | '"' => ['\\', '"']
  | '\\' => ['\\', '\\']
  | c => if isVisible c then [c] else codePointEscape c

def quote (t : Text) : Text := '"' :: t.flatMap quoteChar ++ ['"']

end DatalogDoc
