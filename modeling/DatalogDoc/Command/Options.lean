import DatalogDoc.Text

/-!
# Options of a command

Options are letters after a hyphen, several in a row, or names after two hyphens, which may be cut
short as long as they stay clear. They may stand among the operands, up to a lone double hyphen.
-/

namespace DatalogDoc.Command

inductive Takes
  | nothing
  | value
  | attached
deriving DecidableEq

structure OptionForm where
  letter : Char
  name : String := ""
  takes : Takes := .nothing

/-- The options and operands of a command line, up to an option at fault. -/
structure CommandLine where
  options : List (Char × Text) := []
  operands : List Text := []
  fault : Option Text := none

namespace CommandLine

def withOptions (line : CommandLine) (found : List (Char × Text)) : CommandLine :=
  { line with options := found ++ line.options }

/-- Reads the letters of one argument, up to one at fault; gives whether the next argument is used.
The rest of the argument, or else the next one, is the value of an option that takes one. -/
def readLetters (forms : List OptionForm) (next : Option Text) :
    Text → List (Char × Text) × Except Text Bool
  | [] => ([], .ok false)
  | c :: cs =>
    match forms.find? (·.letter = c) with
    | none => ([], .error ("invalid option -- '".toList ++ c :: ['\'']))
    | some form =>
      match form.takes, cs, next with
      | .nothing, _, _ =>
        let (more, used) := readLetters forms next cs
        ((c, []) :: more, used)
      | .attached, _, _ => ([(c, cs)], .ok false)
      | .value, [], some v => ([(c, v)], .ok true)
      | .value, [], none => ([], .error ("option requires an argument -- '".toList ++ c :: ['\'']))
      | .value, cs, _ => ([(c, cs)], .ok false)

def byName (forms : List OptionForm) (name : Text) : Except Text OptionForm :=
  let quoted (t : Text) : Text := "'--".toList ++ t ++ ['\'']
  match forms.find? fun f => f.name ≠ "" && f.name.toList = name with
  | some form => .ok form
  | none =>
    match forms.filter fun f => f.name ≠ "" && name.isPrefixOf f.name.toList with
    | [form] => .ok form
    | [] => .error ("unrecognized option ".toList ++ quoted name)
    | several =>
      if several.all fun f => several.head?.any (·.letter = f.letter) then
        .ok { letter := (several.head?.map (·.letter)).getD ' ' }
      else
        .error ("option ".toList ++ quoted name ++ " is ambiguous; possibilities:".toList
          ++ several.flatMap fun f => ' ' :: quoted f.name.toList)

def readName (forms : List OptionForm) (next : Option Text) (t : Text) :
    Except Text ((Char × Text) × Bool) := do
  let name := t.takeWhile (· ≠ '=')
  let form ← byName forms name
  let quoted : Text := "option '--".toList ++ form.name.toList ++ ['\'']
  match form.takes, t.drop name.length, next with
  | .nothing, [], _ | .attached, [], _ => return ((form.letter, []), false)
  | .nothing, _, _ => .error (quoted ++ " doesn't allow an argument".toList)
  | _, _ :: value, _ => return ((form.letter, value), false)
  | .value, [], some v => return ((form.letter, v), true)
  | .value, [], none => .error (quoted ++ " requires an argument".toList)

def read (forms : List OptionForm) : List Text → CommandLine
  | [] => {}
  | ['-', '-'] :: rest => { operands := rest }
  | ('-' :: '-' :: name) :: rest =>
    match readName forms rest.head? name with
    | .error reason => { fault := some reason }
    | .ok (found, used) => (goOn used rest).withOptions [found]
  | ('-' :: c :: cs) :: rest =>
    match readLetters forms rest.head? (c :: cs) with
    | (found, .error reason) => { options := found, fault := some reason }
    | (found, .ok used) => (goOn used rest).withOptions found
  | operand :: rest =>
    let line := read forms rest
    { line with operands := operand :: line.operands }
where
  goOn (used : Bool) : List Text → CommandLine
    | [] => {}
    | next :: rest => if used then read forms rest else read forms (next :: rest)

end CommandLine

end DatalogDoc.Command
