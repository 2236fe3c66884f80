import DatalogDoc.Command.Sed.Regex

/-!
# Reading regular expressions

Expressions come in two spellings. In the basic one the operators for groups, counts and alternatives
are letters after a backslash, and a star has no meaning where nothing stands before it; in the
extended one they stand alone, and an operator without anything before it is a mistake.
-/

namespace DatalogDoc.Command

inductive RegexFault
  | invalid
  | badCollation
  | badClass
  | trailingBackslash
  | badReference
  | openBracket
  | openGroup
  | openCount
  | badCount
  | badRange
  | nothingToRepeat
  | tooBig
  | closedGroup

def RegexFault.message : RegexFault → String
  | invalid => "Invalid regular expression"
  | badCollation => "Invalid collation character"
  | badClass => "Invalid character class name"
  | trailingBackslash => "Trailing backslash"
  | badReference => "Invalid back reference"
  | openBracket => "Unmatched [, [^, [:, [., or [="
  | openGroup => "Unmatched ( or \\("
  | openCount => "Unmatched \\\x7b"
  | badCount => "Invalid content of \\\x7b\\\x7d"
  | badRange => "Invalid range end"
  | nothingToRepeat => "Invalid preceding regular expression"
  | tooBig => "Regular expression too big"
  | closedGroup => "Unmatched ) or \\)"

structure RegexStyle where
  extended : Bool := false
  folded : Bool := false
  multiline : Bool := false

inductive RegexToken
  | stop
  | char (c : Char)
  | openGroup
  | closeGroup
  | openBracket
  | star
  | plus
  | question
  | openCount
  | closeCount
  | either
  | reference (n : Nat)
  | anchor (a : Anchor)
  | any
  | word (negated : Bool)
  | space (negated : Bool)
  | loneBackslash
deriving DecidableEq

def RegexToken.spelling : RegexToken → Char
  | char c => c
  | star => '*'
  | plus => '+'
  | question => '?'
  | openCount => '\x7b'
  | closeCount => '\x7d'
  | closeGroup => ')'
  | _ => '\x00'

namespace RegexStyle

variable (style : RegexStyle)

def fold (c : Char) : Char := if style.folded then c.toLower else c

def escapedToken (c : Char) : RegexToken :=
  let basic (t : RegexToken) : RegexToken := if style.extended then .char (style.fold c) else t
  match c with
  | '|' => basic .either
  | '(' => basic .openGroup
  | ')' => basic .closeGroup
  | '+' => basic .plus
  | '?' => basic .question
  | '\x7b' => basic .openCount
  | '\x7d' => basic .closeCount
  | '<' => .anchor .wordStart
  | '>' => .anchor .wordEnd
  | 'b' => .anchor .wordEdge
  | 'B' => .anchor .noWordEdge
  | '\x60' => .anchor .textStart
  | '\'' => .anchor .textEnd
  | 'w' => .word false
  | 'W' => .word true
  | 's' => .space false
  | 'S' => .space true
  | c => if c.isDigit && c ≠ '0' then .reference (c.toNat - 48) else .char (style.fold c)

/-- The token at the front of a text, and what follows it. A caret is an anchor where an expression
may start; a dollar sign where it may end. -/
def token (atStart : Bool) (t : Text) : RegexToken × Text :=
  let extended (c : Char) (t : RegexToken) : RegexToken := if style.extended then t else .char c
  match t with
  | [] => (.stop, [])
  | ['\\'] => (.loneBackslash, [])
  | '\\' :: c :: t => (style.escapedToken c, t)
  | '|' :: t => (extended '|' .either, t)
  | '*' :: t => (.star, t)
  | '+' :: t => (extended '+' .plus, t)
  | '?' :: t => (extended '?' .question, t)
  | '\x7b' :: t => (extended '\x7b' .openCount, t)
  | '\x7d' :: t => (extended '\x7d' .closeCount, t)
  | '(' :: t => (extended '(' .openGroup, t)
  | ')' :: t => (extended ')' .closeGroup, t)
  | '[' :: t => (.openBracket, t)
  | '.' :: t => (.any, t)
  | '^' :: t => (if style.extended || atStart then .anchor .lineStart else .char '^', t)
  | '$' :: t =>
    let mayEnd := style.extended || match t with
      | [] | '\\' :: '|' :: _ | '\\' :: ')' :: _ => true
      | _ => false
    (if mayEnd then .anchor .lineEnd else .char '$', t)
  | c :: t => (.char (style.fold c), t)

end RegexStyle

/-! Sets of characters in brackets. -/

def isAscii (c : Char) : Bool := c.toNat < 128

def isBlankChar (c : Char) : Bool := c = ' ' || (9 ≤ c.toNat && c.toNat ≤ 13)

def classOf? (folded : Bool) : String → Option (Char → Bool)
  | "alpha" => some fun c => isAscii c && c.isAlpha
  | "digit" => some Char.isDigit
  | "alnum" => some fun c => isAscii c && c.isAlphanum
  | "upper" => some fun c => isAscii c && if folded then c.isAlpha else c.isUpper
  | "lower" => some fun c => isAscii c && if folded then c.isAlpha else c.isLower
  | "space" => some isBlankChar
  | "blank" => some fun c => c = ' ' || c = '\t'
  | "punct" => some fun c => 32 < c.toNat && c.toNat < 127 && !c.isAlphanum
  | "print" => some fun c => 32 ≤ c.toNat && c.toNat < 127
  | "graph" => some fun c => 32 < c.toNat && c.toNat < 127
  | "cntrl" => some fun c => c.toNat < 32 || c.toNat = 127
  | "xdigit" => some fun c =>
    c.isDigit || (65 ≤ c.toNat && c.toNat ≤ 70) || (97 ≤ c.toNat && c.toNat ≤ 102)
  | _ => none

inductive BracketToken
  | stop
  | char (c : Char)
  | hyphen
  | close
  | named (mark : Char)

def bracketToken : Text → BracketToken × Text
  | [] => (.stop, [])
  | '[' :: '.' :: t => (.named '.', t)
  | '[' :: '=' :: t => (.named '=', t)
  | '[' :: ':' :: t => (.named ':', t)
  | '-' :: '-' :: '-' :: t => (.char '-', t)
  | '-' :: t => (.hyphen, t)
  | ']' :: t => (.close, t)
  | c :: t => (.char c, t)

inductive BracketElement
  | single (c : Char)
  | members (accepts : Char → Bool)
  | equivalent (c : Char)

def bracketName (mark : Char) : Nat → Text → Except RegexFault (Text × Text)
  | 0, _ => .error .openBracket
  | _ + 1, [] => .error .openBracket
  | fuel + 1, c :: t =>
    match t with
    | [] => .error .openBracket
    | d :: rest =>
      if c = mark && d = ']' then .ok ([], rest)
      else do
        let (name, rest) ← bracketName mark fuel (d :: rest)
        return (c :: name, rest)

namespace RegexStyle

variable (style : RegexStyle)

/-- Reads an element after its first token. A hyphen stands for itself only at an edge. -/
def element (hyphenAllowed : Bool) (token : BracketToken) (t : Text) :
    Except RegexFault (BracketElement × Text) :=
  match token with
  | .named mark => do
    let (name, rest) ← bracketName mark 33 t
    if mark = ':' then
      match classOf? style.folded (String.ofList name) with
      | some accepts => return (.members accepts, rest)
      | none => .error .badClass
    else
      match name with
      | [c] => return (if mark = '=' then .equivalent (style.fold c) else .single (style.fold c), rest)
      | _ => .error .badCollation
  | .hyphen =>
    if hyphenAllowed then .ok (.single '-', t)
    else
      match t with
      | ']' :: _ => .ok (.single '-', t)
      | _ => .error .badRange
  | .close => .ok (.single ']', t)
  | .char c => .ok (.single (style.fold c), t)
  | .stop => .error .openBracket

def elements : Nat → Bool → Text → Except RegexFault ((Char → Bool) × Text)
  | 0, _, _ => .error .openBracket
  | fuel + 1, isFirst, t => do
    let (token, after) := bracketToken t
    let (element, t) ← style.element isFirst token after
    let single : Option Char := match element with
      | .single c => some c
      | _ => none
    let finish (accepts : Char → Bool) (t : Text) : Except RegexFault ((Char → Bool) × Text) :=
      match bracketToken t with
      | (.stop, _) => .error .openBracket
      | (.close, rest) => .ok (accepts, rest)
      | _ => do
        let (more, rest) ← elements fuel false t
        return (fun c => accepts c || more c, rest)
    let alone (t : Text) : Except RegexFault ((Char → Bool) × Text) :=
      match element with
      | .single c | .equivalent c => finish (· = c) t
      | .members accepts => finish accepts t
    match single, bracketToken t with
    | some low, (.hyphen, after) =>
      match bracketToken after with
      | (.stop, _) => .error .openBracket
      | (.close, rest) => .ok (fun c => c = low || c = '-', rest)
      | (token, rest) =>
        let (element, t) ← style.element true token rest
        match element with
        | .single high =>
          if high < low then .error .badRange
          else finish (fun c => low ≤ c && c ≤ high) t
        | _ => .error .badRange
    | _, _ => alone t

def bracket (t : Text) : Except RegexFault (Regex × Text) := do
  let (negated, t) := match t with
    | '^' :: t => (true, t)
    | t => (false, t)
  if t.isEmpty then
    .error .invalid
  let (accepts, rest) ← style.elements (t.length + 1) true t
  let accepts (c : Char) : Bool :=
    if negated then !accepts c && !(style.multiline && c = '\n') else accepts c
  return (.one accepts, rest)

end RegexStyle

/-! Expressions. -/

structure RegexReader where
  rest : Text
  token : RegexToken := .stop
  groups : Nat := 0
  complete : List Nat := []
  repeats : Bool := false

abbrev ReadRegex := StateT RegexReader (Except RegexFault)

namespace ReadRegex

variable (style : RegexStyle)

def next (atStart : Bool) : ReadRegex Unit := modify fun s =>
  let (token, rest) := style.token atStart s.rest
  { s with token, rest }

def countLimit : Nat := 32767

inductive Count
  | missing
  | value (n : Nat)
  | malformed

/-- Reads a number of a count; the token behind it is left. -/
def readCount : Nat → Count → ReadRegex Count
  | 0, _ => return .malformed
  | fuel + 1, count => do
    next style false
    match (← get).token, count with
    | .stop, _ => return .malformed
    | .closeCount, count | .char ',', count => return count
    | .char c, .missing => readCount fuel (if c.isDigit then .value (c.toNat - 48) else .malformed)
    | .char c, .value n =>
      readCount fuel (if c.isDigit then .value (min (countLimit + 1) (n * 10 + (c.toNat - 48)))
        else .malformed)
    | _, _ => readCount fuel .malformed

def readBounds : ReadRegex (Nat × Option Nat) := do
  let size := (← get).rest.length + 2
  let first ← readCount style size .missing
  let token := (← get).token
  let low ← match first, token with
    | .missing, .char ',' => pure (some 0)
    | .missing, _ => throw .badCount
    | .value n, _ => pure (some n)
    | .malformed, _ => pure none
  let high ← match low, token with
    | some n, .closeCount => pure (Count.value n)
    | some _, .char ',' => readCount style size .missing
    | _, _ => pure Count.malformed
  let token := (← get).token
  match low, high with
  | some low, .value high =>
    if high < low || token ≠ .closeCount then throw .badCount
    if countLimit < high then throw .tooBig
    return (low, some high)
  | some low, .missing =>
    if token ≠ .closeCount then throw .badCount
    if countLimit < low then throw .tooBig
    return (low, none)
  | _, _ => if token = .stop then throw .openCount else throw .badCount

def times (r : Regex) : Nat → Regex
  | 0 => .empty
  | 1 => r
  | n + 1 => .sequence (times r n) r

def atMost (r : Regex) : Nat → Regex
  | 0 => .empty
  | 1 => .either r .empty
  | n + 1 => .either (.sequence (atMost r n) r) .empty

def counted (r : Regex) (low : Nat) : Option Nat → Regex
  | none => if low = 0 then .many r else .sequence (times r low) (.many r)
  | some high =>
    if low = 0 then atMost r high
    else if low = high then times r low
    else .sequence (times r low) (atMost r (high - low))

def readRepetitions : Nat → Option Regex → ReadRegex (Option Regex)
  | 0, r => return r
  | fuel + 1, r => do
    let bounds : Option (Nat × Option Nat) ← match (← get).token with
      | .star => pure (some (0, none))
      | .plus => pure (some (1, none))
      | .question => pure (some (0, some 1))
      | .openCount => some <$> readBounds style
      | _ => pure none
    match bounds with
    | none => return r
    | some (low, high) =>
      next style false
      let token := (← get).token
      if !style.extended && (token = .star || token = .openCount) then
        throw .nothingToRepeat
      let r := if high = some 0 then none else r.map (counted · low high)
      readRepetitions fuel r

abbrev Inner := ReadRegex (Option Regex)

def readExpression (inner : Inner) : ReadRegex (Option Regex) := do
  let finish (r : Regex) : ReadRegex (Option Regex) := do
    next style false
    readRepetitions style ((← get).rest.length + 2) (some r)
  let s ← get
  match s.token with
  | .char c => finish (.one (· = c))
  | .any => finish (.one fun c => !(style.multiline && c = '\n'))
  | .word negated => finish (.one fun c => isWordChar c != negated)
  | .space negated => finish (.one fun c => isBlankChar c != negated)
  | .openBracket =>
    match style.bracket s.rest with
    | .error e => throw e
    | .ok (r, rest) =>
      set { s with rest }
      finish r
  | .reference n =>
    unless s.complete.contains n do
      throw .badReference
    set { s with repeats := true }
    finish (.repeated n)
  | .openGroup =>
    let number := s.groups + 1
    set { s with groups := number }
    next style true
    let body ← if (← get).token = .closeGroup then pure none
      else do
        let body ← inner
        unless (← get).token = .closeGroup do
          throw .openGroup
        pure body
    modify fun s => { s with complete := number :: s.complete }
    finish (.group number (body.getD .empty))
  | .anchor a =>
    next style false
    return some (.anchor a)
  | .openCount => throw .nothingToRepeat
  | .star | .plus | .question =>
    if style.extended then throw .nothingToRepeat
    else finish (.one (· = s.token.spelling))
  | .closeGroup => throw .closedGroup
  | .closeCount => finish (.one (· = '\x7d'))
  | .stop | .either => return none
  | .loneBackslash => throw .trailingBackslash

def readBranch (inner : Inner) (nested : Bool) : Nat → Option Regex → ReadRegex (Option Regex)
  | 0, r => return r
  | fuel + 1, r => do
    let token := (← get).token
    if token = .either || token = .stop || (nested && token = .closeGroup) then
      return r
    let more ← readExpression style inner
    let joined := match r, more with
      | some r, some m => some (.sequence r m)
      | some r, none => some r
      | none, m => m
    readBranch inner nested fuel joined

def readAlternatives (inner : Inner) (nested : Bool) : Nat → ReadRegex (Option Regex)
  | 0 => return none
  | fuel + 1 => do
    let size := (← get).rest.length + 2
    let before := (← get).complete
    let first ← readExpression style inner
    let first ← readBranch style inner nested size first
    go before fuel first
where
  go (before : List Nat) : Nat → Option Regex → ReadRegex (Option Regex)
    | 0, first => return first
    | fuel + 1, first => do
      if (← get).token ≠ .either then
        return first
      next style true
      let s ← get
      let second ← if s.token = .either || s.token = .stop || (nested && s.token = .closeGroup) then
          pure none
        else do
          set { s with complete := before }
          let second ← readBranch style inner nested (s.rest.length + 2) none
          modify fun s' => { s' with complete := s.complete ++ s'.complete }
          pure second
      go before fuel (some (.either (first.getD .empty) (second.getD .empty)))

def readAt : Nat → Bool → ReadRegex (Option Regex)
  | 0, _ => throw .tooBig
  | depth + 1, nested => do
    readAlternatives style (readAt depth true) nested ((← get).rest.length + 2)

end ReadRegex

def members : Nat → Bool → Text → List (Option Char) × Text
  | 0, _, t => ([], t)
  | fuel + 1, isFirst, t =>
    let goOn (member : Option Char) (t : Text) : List (Option Char) × Text :=
      let (more, rest) := members fuel false t
      (member :: more, rest)
    match t with
    | [] => ([], [])
    | '[' :: mark :: t =>
      if mark = ':' || mark = '.' || mark = '=' then goOn none ((t.dropWhile (· ≠ ']')).drop 1)
      else goOn (some '[') (mark :: t)
    | c :: t =>
      if c = ']' && !isFirst then ([], t)
      else
        match t with
        | '-' :: ']' :: _ => goOn (some c) t
        | '-' :: _ :: t => goOn none t
        | t => goOn (some c) t

def looksLikeClass (set : List (Option Char)) : Bool :=
  set.head? = some (some ':') && set.getLast? = some (some ':') && set.all Option.isSome
    && set.any (· ≠ some ':')

/-- Whether a text has a set that looks like the name of a class. -/
def confusesClass : Nat → Text → Bool
  | 0, _ => false
  | _ + 1, [] => false
  | fuel + 1, '\\' :: _ :: t => confusesClass fuel t
  | fuel + 1, '[' :: t =>
    let t := match t with
      | '^' :: t => t
      | t => t
    let (set, rest) := members (t.length + 1) true t
    looksLikeClass set || confusesClass fuel rest
  | fuel + 1, _ :: t => confusesClass fuel t

def Pattern.read (style : RegexStyle) (t : Text) : Except RegexFault Pattern := do
  let start : RegexReader := { rest := t }
  let act : ReadRegex (Option Regex) := do
    ReadRegex.next style true
    ReadRegex.readAt style (t.length + 1) false
  let (r, s) ← act.run start
  return {
    regex := r.getD .empty, groups := s.groups, repeats := s.repeats, folded := style.folded
    multiline := style.multiline }

end DatalogDoc.Command
