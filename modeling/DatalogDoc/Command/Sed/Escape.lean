import DatalogDoc.Command.Number
import DatalogDoc.Text

/-!
# Escapes in scripts

A backslash and a letter may stand for a character that is hard to write. The character takes its
place before the text is looked at any further, so in a pattern it may have a meaning of its own; only
where a text takes the place of a match it never has one.
-/

namespace DatalogDoc.Command.Sed

namespace Escape

def simple? : Char → Option Char
  | 'a' => some '\x07'
  | 'f' => some '\x0c'
  | 'n' => some '\n'
  | '\n' => some '\n'
  | 'r' => some '\r'
  | 't' => some '\t'
  | 'v' => some '\x0b'
  | _ => none

def base? : Char → Option (Nat × Nat)
  | 'd' => some (10, 3)
  | 'o' => some (8, 3)
  | 'x' => some (16, 2)
  | _ => none

def control (c : Char) : Char := Char.ofNat (Nat.xor c.toUpper.toNat 64)

/-- Whether a character that an escape produced keeps a backslash before it. -/
def isGuarded (inReplacement : Bool) (c : Char) : Bool := c = '\\' || (inReplacement && c = '&')

/-- Puts characters in the place of escapes, or gives nothing if the control key is asked to go with
another escape. -/
def resolve (inReplacement : Bool) : Nat → Text → Option Text
  | 0, t => some t
  | fuel + 1, t =>
    match t with
    | '\\' :: c :: rest =>
      match simple? c, base? c with
      | some d, _ => (d :: ·) <$> resolve inReplacement fuel rest
      | none, some (base, most) =>
        let (value, after) := readDigits base most 0 rest
        if after.length = rest.length then
          (['\\', c] ++ ·) <$> resolve inReplacement fuel rest
        else
          let d := Char.ofNat (value % 256)
          ((if isGuarded inReplacement d then ['\\', d] else [d]) ++ ·)
            <$> resolve inReplacement fuel after
      | none, none =>
        if c = 'c' then
          match rest with
          | [] => some ['\\']
          | '\\' :: '\\' :: rest => (control '\\' :: ·) <$> resolve inReplacement fuel rest
          | '\\' :: _ => none
          | d :: rest => (control d :: ·) <$> resolve inReplacement fuel rest
        else
          (['\\', c] ++ ·) <$> resolve inReplacement fuel rest
    | c :: rest => (c :: ·) <$> resolve inReplacement fuel rest
    | [] => some []

def strip : Text → Text
  | '\\' :: c :: t => c :: strip t
  | c :: t => c :: strip t
  | [] => []

end Escape

end DatalogDoc.Command.Sed
