import DatalogDoc.Shell.Script

/-!
# Reading shell scripts

A script is read one complete command at a time, so that what comes before a mistake is run. The
reader takes tokens from the text; which words are keywords depends on where they stand.
-/

namespace DatalogDoc.Shell

inductive Token
  | endOfFile
  | newline
  | word
  | redirection
  | sign (t : String)
deriving DecidableEq

def Token.name : Token → Text
  | endOfFile => "end of file".toList
  | newline => "newline".toList
  | word => "word".toList
  | redirection => "redirection".toList
  | sign t => '"' :: t.toList ++ ['"']

def keywords : List String :=
  ["!", "case", "do", "done", "elif", "else", "esac", "fi", "for", "if", "in", "then", "until",
   "while", "\x7b", "\x7d"]

def endsList : Token → Bool
  | .endOfFile => true
  | .sign t => [")", ";;", "\x60", "do", "done", "elif", "else", "esac", "fi", "then", "\x7d"].contains t
  | _ => false

structure ScriptFault where
  line : Nat
  message : Text

/-- A document that is announced, but starts only on the next line. -/
structure Announcement where
  number : Nat
  mark : Text
  isLiteral : Bool
  stripsTabs : Bool

structure Reader where
  rest : Text
  line : Nat := 1
  last : Token := .endOfFile
  pushed : Bool := false
  word : Word := []
  wordQuoted : Bool := false
  redirection : Redirection := .document 0 0
  /-- Whether the document that the last redirection announces has its tabs stripped, and the
  descriptor that reads it. -/
  announced : Option (Bool × Nat) := none
  pending : List Announcement := []
  documents : List (Nat × Word) := []
  announcements : Nat := 0
  aliases : List (Text × Text) := []
  /-- The aliases whose text is being read, with what follows that text. -/
  openAliases : List (Text × Nat) := []

abbrev Read := StateT Reader (Except ScriptFault)

namespace Read

def fail {α : Type} (message : Text) : Read α := do
  throw { line := (← get).line, message := "Syntax error: ".toList ++ message }

def unexpected {α : Type} (expected : Option String) : Read α := do
  let found := (← get).last.name ++ " unexpected".toList
  match expected with
  | none => fail found
  | some t => fail (found ++ " (expecting ".toList ++ (Token.sign t).name ++ ")".toList)

def joinedRest : Nat → Text → Nat × Text
  | line, '\\' :: '\n' :: t => joinedRest (line + 1) t
  | line, t => (line, t)

def joinLines : Read Unit := modify fun s =>
  let (line, rest) := joinedRest s.line s.rest
  { s with line, rest }

def peek? : Read (Option Char) := do
  joinLines
  return (← get).rest.head?

def advance (n : Nat) : Read Text := do
  let s ← get
  let taken := s.rest.take n
  set { s with rest := s.rest.drop n, line := s.line + taken.count '\n' }
  return taken

def takeChar : Read Unit := do
  let _ ← advance 1

def accept (c : Char) : Read Bool := do
  if (← peek?) = some c then
    takeChar
    return true
  else return false

def setToken (t : Token) : Read Token := do
  modify fun s => { s with last := t }
  return t

def pushBack : Read Unit := modify fun s => { s with pushed := true }

def markQuoted : Read Unit := modify fun s => { s with wordQuoted := true }

end Read

open Read

inductive Quoting
  | unquoted
  | double
  | document
  | arithmetic
deriving DecidableEq

inductive Ending
  | word
  | quote
  | brace
  | parens (opened : Nat)
  | text
deriving DecidableEq

structure Inner where
  list : (mayBeEmpty : Bool) → Read Script
  command : Read Script

def isMeta (c : Char) : Bool := " \t\n;&|()<>".toList.contains c

def isOrdinary (q : Quoting) (e : Ending) (c : Char) : Bool :=
  !(c = '\\' || c = '$' || c = '\x60') &&
    match q with
    | .unquoted => !(c = '\'' || c = '"' || (e = .word && isMeta c) || (e = .brace && c = '\x7d'))
    | .double => !(c = '"' || (e = .brace && c = '\x7d'))
    | .document => true
    | .arithmetic => !(c = '(' || c = ')')

def textPiece (q : Quoting) (t : Text) : Piece :=
  if q = .unquoted then .literal t else .quoted t

/-- The text between backquotes, in which a backslash keeps the characters that would end or change
it. -/
def readBackquoted (inQuotes : Bool) : Nat → Read Text
  | 0 => fail "EOF in backquote substitution".toList
  | fuel + 1 => do
    match ← peek? with
    | none => fail "EOF in backquote substitution".toList
    | some '\x60' =>
      takeChar
      return []
    | some '\\' =>
      takeChar
      match (← get).rest.head? with
      | none => fail "EOF in backquote substitution".toList
      | some c =>
        takeChar
        let rest ← readBackquoted inQuotes fuel
        if c = '\\' || c = '\x60' || c = '$' || (inQuotes && c = '"') then return c :: rest
        else return '\\' :: c :: rest
    | some c =>
      takeChar
      return c :: (← readBackquoted inQuotes fuel)

/-- Splits lines at the one that is the end mark: the lines before it, those after it, and how many
were passed. In a document that is not literal, a backslash may hide the break before a line. -/
def splitDocument (a : Announcement) : Bool → List Text → List Text × List Text × Nat
  | _, [] => ([], [], 0)
  | hidden, line :: lines =>
    let line := if a.stripsTabs && !hidden then line.dropWhile (· = '\t') else line
    if line = a.mark && !hidden then ([], lines, 1)
    else
      let slashes := (line.reverse.takeWhile (· = '\\')).length
      let (body, rest, n) := splitDocument a (!a.isLiteral && slashes % 2 = 1) lines
      (line :: body, rest, n + 1)

section Words

variable (inner : Inner)

def readSubstitution : Read Script := do
  let saved := (← get).pending
  modify fun s => { s with pending := [] }
  let script ← inner.list true
  let s ← get
  let token := if s.pushed then s.last else .endOfFile
  unless token = .sign ")" do
    unexpected (some ")")
  set { s with pushed := false, pending := saved }
  return script

def readOldSubstitution (inQuotes : Bool) : Read Script := do
  let t ← readBackquoted inQuotes ((← get).rest.length + 1)
  let outer ← get
  set { outer with rest := t, line := 1, pushed := false, pending := [], openAliases := [] }
  let script ← inner.list true
  let s ← get
  set { outer with documents := s.documents, announcements := s.announcements }
  return script

/-- What is asked of a parameter in braces, up to where its word starts; nothing is asked with a word
when there is none to read. -/
inductive Opening
  | done (use : Use)
  | withWord (build : Word → Use) (isPattern : Bool)

def readOpening : Read Opening := do
  let colon ← accept ':'
  match ← peek? with
  | some '-' =>
    takeChar
    return .withWord (.fallback colon) false
  | some '+' =>
    takeChar
    return .withWord (.alternative colon) false
  | some '?' =>
    takeChar
    return .withWord (.demand colon) false
  | some '=' =>
    takeChar
    return .withWord (.assign colon) false
  | some '\x7d' =>
    takeChar
    return if colon then .withWord (fun _ => .malformed) false else .done .value
  | some '%' =>
    if colon then
      return .withWord (fun _ => .malformed) false
    takeChar
    let longest ← accept '%'
    return .withWord (.trim true longest) true
  | some '#' =>
    if colon then
      return .withWord (fun _ => .malformed) false
    takeChar
    let longest ← accept '#'
    return .withWord (.trim false longest) true
  | _ => return .withWord (fun _ => .malformed) false

def malformed : Opening := .withWord (fun _ => .malformed) false

def takeChars (test : Char → Bool) : Nat → Read Text
  | 0 => return []
  | fuel + 1 => do
    match ← peek? with
    | some c =>
      if test c then
        takeChar
        return c :: (← takeChars test fuel)
      else return []
    | none => return []

def takeName : Read Text := do takeChars isNamePart ((← get).rest.length + 1)

def takeNumber : Read Text := do takeChars Char.isDigit ((← get).rest.length + 1)

def readBraced : Read (Text × Opening) := do
  match ← peek? with
  | none => return ([], malformed)
  | some c =>
    if isNameStart c then
      return (← takeName, ← readOpening)
    else if c.isDigit then
      return (← takeNumber, ← readOpening)
    else if c = '#' then
      takeChar
      match ← peek? with
      | some d =>
        let close : Read Opening := do
          return if (← peek?) = some '\x7d' then .withWord (fun _ => .length) false else malformed
        if isNameStart d then
          return (← takeName, ← close)
        else if d.isDigit then
          takeChar
          return ([d], ← close)
        else
          -- A special parameter right before the closing brace has its length taken.
          let saved ← get
          takeChar
          if d ≠ '\x7d' && (← peek?) = some '\x7d' then
            return ([d], if isSpecial d then .withWord (fun _ => .length) false else malformed)
          else
            set saved
            return (['#'], ← readOpening)
      | none => return (['#'], ← readOpening)
    else if isSpecial c then
      takeChar
      return ([c], ← readOpening)
    else return ([], malformed)

def readPieces (isMark : Bool) : Nat → Quoting → Ending → Read Word
  | 0, _, _ => fail "Unterminated quoted string".toList
  | fuel + 1, q, e => do
    let quoted := q ≠ .unquoted
    let more (front : Word) (e : Ending) : Read Word := do
      return front ++ (← readPieces isMark fuel q e)
    joinLines
    let run := (← get).rest.takeWhile (isOrdinary q e)
    if !run.isEmpty then
      let _ ← advance run.length
      more [textPiece q run] e
    else
      match (← get).rest with
      | [] =>
        match q, e with
        | .arithmetic, _ => fail "Missing '))'".toList
        | .double, _ => fail "Unterminated quoted string".toList
        | _, .brace => fail "Missing '\x7d'".toList
        | _, _ => return []
      | c :: after =>
        match c with
        | '\\' =>
          takeChar
          match after with
          | [] => more [.quoted ['\\']] e
          | d :: _ =>
            takeChar
            markQuoted
            let kept := quoted && !(d = '\\' || d = '\x60' || d = '$'
              || (d = '"' && q ≠ .document) || (d = '\x7d' && e = .brace))
            more [.quoted (if kept then ['\\', d] else [d])] e
        | '\'' =>
          takeChar
          let body := after.takeWhile (· ≠ '\'')
          let _ ← advance body.length
          if (← get).rest.isEmpty then
            fail "Unterminated quoted string".toList
          takeChar
          markQuoted
          more [.quoted body] e
        | '"' =>
          takeChar
          markQuoted
          if e = .quote then
            return []
          else
            let body ← readPieces isMark fuel .double .quote
            more (.quoted [] :: body ++ [.quoted []]) e
        | '\x7d' =>
          takeChar
          return []
        | '(' =>
          if q = .arithmetic then
            takeChar
            match e with
            | .parens n => more [.quoted ['(']] (.parens (n + 1))
            | e => more [.quoted ['(']] e
          else return []
        | ')' =>
          if q = .arithmetic then
            takeChar
            match e with
            | .parens (n + 1) => more [.quoted [')']] (.parens n)
            | e => if ← accept ')' then return [] else more [.quoted [')']] e
          else return []
        | '\x60' =>
          takeChar
          if isMark then
            more [textPiece q ['\x60']] e
          else
            let script ← readOldSubstitution inner (q = .double || q = .arithmetic)
            more [.output script quoted] e
        | '$' =>
          takeChar
          match ← peek? with
          | none => more [textPiece q ['$']] e
          | some d =>
            if isMark then
              more [textPiece q ['$']] e
            else if d = '(' then
              takeChar
              if ← accept '(' then
                let expression ← readPieces isMark fuel .arithmetic (.parens 0)
                more [.arithmetic expression quoted] e
              else
                let saved ← get
                let script ← readSubstitution inner
                modify fun s => { s with wordQuoted := saved.wordQuoted }
                more [.output script quoted] e
            else if d = '\x7b' then
              takeChar
              let (name, opening) ← readBraced
              match opening with
              | .done use => more [.parameter name use quoted] e
              | .withWord build isPattern =>
                let inside := if isPattern || q = .unquoted then Quoting.unquoted else .double
                let word ← readPieces isMark fuel inside .brace
                more [.parameter name (build (Word.join word)) quoted] e
            else if isNameStart d then
              let name ← takeName
              more [.parameter name .value quoted] e
            else if isSpecial d then
              takeChar
              more [.parameter [d] .value quoted] e
            else more [textPiece q ['$']] e
        | _ => return []

def readDocuments : Read Unit := do
  for a in (← get).pending do
    let s ← get
    let lines := s.rest.splitOn '\n'
    let (body, rest, passed) := splitDocument a false lines
    let closed := passed > body.length
    let unfinished := !closed && body.getLast? = some []
    let body := if unfinished then body.dropLast else body
    let missing := !closed && !unfinished && !body.isEmpty
    let text := body.flatMap (· ++ ['\n'])
    let text := if missing then text.dropLast else text
    let after := ['\n'].intercalate rest
    let line := s.line + passed
    if a.isLiteral then
      set { s with rest := after, line, documents := (a.number, [.quoted text]) :: s.documents }
    else
      set { s with rest := text, pending := [] }
      let word ← readPieces inner false (text.length + 2) .document .text
      let s' ← get
      set { s' with
        rest := after, line, pending := s.pending, wordQuoted := s.wordQuoted
        documents := (a.number, Word.join word) :: s'.documents }
  modify fun s => { s with pending := [] }

def readRedirection (digit : Option Nat) : Read Unit := do
  let put (standard : Nat) (build : Nat → Redirection) : Read Unit :=
    modify fun s => { s with redirection := build (digit.getD standard), announced := none }
  if ← accept '>' then
    if ← accept '>' then put 1 fun n => .file n .append []
    else if ← accept '|' then put 1 fun n => .file n .force []
    else if ← accept '&' then put 1 fun n => .copy n []
    else put 1 fun n => .file n .write []
  else
    takeChar
    if ← accept '<' then
      let strips ← accept '-'
      modify fun s => { s with announced := some (strips, digit.getD 0) }
    else if ← accept '&' then put 0 fun n => .copy n []
    else if ← accept '>' then put 0 fun n => .file n .readWrite []
    else put 0 fun n => .file n .read []

/-- Reads a word, or a redirection where digits or nothing stand right before its operator. -/
def readWord (isMark : Bool) : Read Token := do
  modify fun s => { s with wordQuoted := false }
  let word := Word.join (← readPieces inner isMark ((← get).rest.length + 2) .unquoted .word)
  let s ← get
  let isOperator := match s.rest with
    | c :: _ => c = '<' || c = '>'
    | [] => false
  let digit : Option (Option Nat) := match word with
    | [] => some none
    | [.literal [c]] => if c.isDigit then some (some (c.toNat - 48)) else none
    | _ => none
  match isOperator && !s.wordQuoted, digit with
  | true, some digit =>
    readRedirection digit
    setToken .redirection
  | _, _ =>
    modify fun s => { s with word }
    setToken .word

def scan (isMark : Bool) : Nat → Read Token
  | 0 => setToken .endOfFile
  | fuel + 1 => do
    if (← get).pushed then
      modify fun s => { s with pushed := false }
      return (← get).last
    let either (c : Char) (double single : String) : Read Token := do
      takeChar
      setToken (.sign (if ← accept c then double else single))
    match ← peek? with
    | none => setToken .endOfFile
    | some c =>
      match c with
      | ' ' | '\t' =>
        takeChar
        scan isMark fuel
      | '#' =>
        let comment := (← get).rest.takeWhile (· ≠ '\n')
        let _ ← advance comment.length
        scan isMark fuel
      | '\n' =>
        takeChar
        setToken .newline
      | '&' => either '&' "&&" "&"
      | '|' => either '|' "||" "|"
      | ';' => either ';' ";;" ";"
      | '(' =>
        takeChar
        setToken (.sign "(")
      | ')' =>
        takeChar
        setToken (.sign ")")
      | _ => readWord inner isMark

/-- Puts the text of an alias in the place of its name, unless that text is being read. -/
def expandAlias? : Read Bool := do
  let s ← get
  match Word.plain? s.word with
  | none => return false
  | some name =>
    let stillOpen := s.openAliases.filter fun (_, behind) => behind ≤ s.rest.length
    match s.aliases.lookup name with
    | some text =>
      if stillOpen.any (·.1 = name) then
        return false
      set { s with
        rest := text ++ s.rest, openAliases := (name, s.rest.length) :: stillOpen }
      return true
    | none => return false

def readToken (newlines keywords aliases : Bool) : Nat → Read Token
  | 0 => setToken .endOfFile
  | fuel + 1 => do
    let token ← scan inner false ((← get).rest.length + 2)
    if newlines && token = .newline then
      readDocuments inner
      readToken newlines keywords aliases fuel
    else if token ≠ .word || (← get).wordQuoted then
      return token
    else
      match keywords, Word.plain? (← get).word with
      | true, some t =>
        if Shell.keywords.contains (String.ofList t) then setToken (.sign (String.ofList t))
        else if aliases then again fuel token
        else return token
      | _, _ => if aliases then again fuel token else return token
where
  again (fuel : Nat) (token : Token) : Read Token := do
    if ← expandAlias? then readToken newlines keywords aliases fuel else return token

def nextToken (newlines keywords aliases : Bool) : Read Token := do
  readToken inner newlines keywords aliases (2 * (← get).rest.length + 8 + 64)

def plainToken : Read Token := nextToken inner false false false

def commandToken : Read Token := nextToken inner false true true

def commandTokenAnyLine : Read Token := nextToken inner true true true

def expect (t : String) : Read Unit := do
  unless (← commandToken inner) = .sign t do
    unexpected (some t)

def readTarget : Read Redirection := do
  let s ← get
  match s.announced with
  | some (stripsTabs, descriptor) =>
    unless (← scan inner true (s.rest.length + 2)) = .word do
      unexpected none
    let s ← get
    let number := s.announcements
    let a : Announcement := { number, mark := s.word.text, isLiteral := s.wordQuoted, stripsTabs }
    set { s with pending := s.pending ++ [a], announced := none, announcements := number + 1 }
    return .document descriptor number
  | none =>
    let r := s.redirection
    unless (← plainToken inner) = .word do
      unexpected none
    let word := (← get).word
    return match r with
      | .file n mode _ => .file n mode word
      | .copy n _ => .copy n word
      | r => r

def readRedirections : Nat → Read (List Redirection)
  | 0 => return []
  | fuel + 1 => do
    if (← commandToken inner) = .redirection then
      let r ← readTarget inner
      return r :: (← readRedirections fuel)
    else
      pushBack
      return []

structure Parts where
  assignments : List (Text × Word) := []
  words : List Word := []
  redirections : List Redirection := []

/-- Reads a simple command, or a function if it turns out to be one. Assignments stand before the
first word only. -/
def readSimple (line : Nat) : Nat → Parts → Read Script
  | 0, _ => fail "end of file unexpected".toList
  | fuel + 1, parts => do
    let leading := parts.words.isEmpty
    match ← nextToken inner false false leading with
    | .word =>
      let word := (← get).word
      match leading, word.assignment? with
      | true, some a => readSimple line fuel { parts with assignments := a :: parts.assignments }
      | _, _ => readSimple line fuel { parts with words := word :: parts.words }
    | .redirection =>
      let r ← readTarget inner
      readSimple line fuel { parts with redirections := r :: parts.redirections }
    | .sign "(" =>
      match parts.words, parts.assignments, parts.redirections with
      | [name], [], [] =>
        unless (← plainToken inner) = .sign ")" do
          unexpected (some ")")
        match Word.plain? name with
        | some t =>
          if !isName t || isSpecialCommand t then
            fail "Bad function name".toList
          let _ ← commandTokenAnyLine inner
          pushBack
          return .define t (← inner.command)
        | none => fail "Bad function name".toList
      | _, _, _ => finish parts
    | _ => finish parts
where
  finish (parts : Parts) : Read Script := do
    pushBack
    return .simple line parts.assignments.reverse parts.words.reverse parts.redirections.reverse

def readBranches : Nat → Read Script
  | 0 => unexpected (some "fi")
  | fuel + 1 => do
    match ← commandToken inner with
    | .sign "elif" =>
      let test ← inner.list false
      expect inner "then"
      let yes ← inner.list false
      return .branch test yes (← readBranches fuel)
    | .sign "else" => inner.list false
    | _ =>
      pushBack
      return .skip

def readWords : Nat → Read (List Word)
  | 0 => return []
  | fuel + 1 => do
    if (← plainToken inner) = .word then
      let word := (← get).word
      return word :: (← readWords fuel)
    else return []

def readFor (line : Nat) : Read Script := do
  let token ← plainToken inner
  let s ← get
  let name := (Word.plain? s.word).getD []
  if token ≠ .word || s.wordQuoted || !isName name then
    fail "Bad for loop variable".toList
  let words : Option (List Word) ←
    if (← commandTokenAnyLine inner) = .sign "in" then do
      let words ← readWords inner ((← get).rest.length + 2)
      let last := (← get).last
      unless last = .newline || last = .sign ";" do
        unexpected none
      if last = .newline then
        readDocuments inner
      pure (some words)
    else do
      unless (← get).last = .sign ";" do
        pushBack
      pure none
  unless (← commandTokenAnyLine inner) = .sign "do" do
    unexpected (some "do")
  let body ← inner.list false
  return .forEach line name words body

def readPatterns : Nat → Read (List Word)
  | 0 => return []
  | fuel + 1 => do
    let word := (← get).word
    if (← plainToken inner) = .sign "|" then
      let _ ← plainToken inner
      return word :: (← readPatterns fuel)
    else return [word]

def readCases : Nat → Read (List (List Word × Script))
  | 0 => return []
  | fuel + 1 => do
    let token ← nextToken inner true true false
    if token = .sign "esac" then
      return []
    if token = .sign "(" then
      let _ ← plainToken inner
    let patterns ← readPatterns inner ((← get).rest.length + 2)
    unless (← get).last = .sign ")" do
      unexpected (some ")")
    let body ← inner.list true
    match ← nextToken inner true true false with
    | .sign "esac" => return [(patterns, body)]
    | .sign ";;" => return (patterns, body) :: (← readCases fuel)
    | _ => unexpected (some ";;")

def readChoice (line : Nat) : Read Script := do
  unless (← plainToken inner) = .word do
    let found := (← get).last.name
    fail (found ++ " unexpected (expecting word)".toList)
  let word := (← get).word
  unless (← commandTokenAnyLine inner) = .sign "in" do
    unexpected (some "in")
  return .choose line word (← readCases inner ((← get).rest.length + 2))

def readLoop (expected : Bool) : Read Script := do
  let test ← inner.list false
  expect inner "do"
  let body ← inner.list false
  expect inner "done"
  return .loop expected test body

def readCompound (line : Nat) (first : String) : Read Script := do
  match first with
  | "if" =>
    let test ← inner.list false
    expect inner "then"
    let yes ← inner.list false
    let no ← readBranches inner ((← get).rest.length + 2)
    expect inner "fi"
    return .branch test yes no
  | "while" => readLoop inner true
  | "until" => readLoop inner false
  | "for" =>
    let script ← readFor inner line
    expect inner "done"
    return script
  | "case" => readChoice inner line
  | "(" =>
    let script ← inner.list false
    expect inner ")"
    return .subshell line script []
  | "\x7b" =>
    let script ← inner.list false
    expect inner "\x7d"
    return script
  | _ => unexpected none

def commandStep : Read Script := do
  let line := (← get).line
  match ← commandToken inner with
  | .word | .redirection =>
    pushBack
    readSimple inner line ((← get).rest.length + 4) {}
  | .sign t =>
    let script ← readCompound inner line t
    let redirections ← readRedirections inner ((← get).rest.length + 2)
    match redirections, script with
    | [], script => return script
    | redirections, .subshell line script _ => return .subshell line script redirections
    | redirections, script => return .redirected line script redirections
  | _ => unexpected none

def readPipe : Nat → Read (List Script)
  | 0 => return []
  | fuel + 1 => do
    if (← plainToken inner) = .sign "|" then
      let _ ← commandTokenAnyLine inner
      pushBack
      let script ← commandStep inner
      return script :: (← readPipe fuel)
    else
      pushBack
      return []

def readPipeline : Read Script := do
  let negated := (← commandToken inner) = .sign "!"
  unless negated do
    pushBack
  let first ← commandStep inner
  let more ← readPipe inner ((← get).rest.length + 2)
  let script := if more.isEmpty then first else .pipeline (first :: more) false
  return if negated then .negated script else script

def readConditions : Nat → Script → Read Script
  | 0, first => return first
  | fuel + 1, first => do
    match ← plainToken inner with
    | .sign "&&" => next fuel (.both first)
    | .sign "||" => next fuel (.either first)
    | _ =>
      pushBack
      return first
where
  next (fuel : Nat) (build : Script → Script) : Read Script := do
    let _ ← commandTokenAnyLine inner
    pushBack
    let second ← readPipeline inner
    readConditions fuel (build second)

def inBackground : Script → Script
  | .pipeline parts _ => .pipeline parts true
  | .redirected _ script redirections => .background script redirections
  | script => .background script []

/-- Reads a list inside a command, up to a token that cannot go on. It may be empty if `mayEnd`
holds. -/
def readList : Nat → Bool → Option Script → Read Script
  | 0, _, before => return before.getD .skip
  | fuel + 1, mayEnd, before => do
    let token ← commandTokenAnyLine inner
    if token = .endOfFile then
      readDocuments inner
      pushBack
      return before.getD .skip
    pushBack
    if mayEnd && endsList token then
      return before.getD .skip
    let script ← readConditions inner ((← get).rest.length + 4) (← readPipeline inner)
    let join (script : Script) : Script := match before with
      | some first => .sequence first script
      | none => script
    match ← plainToken inner with
    | .sign "&" => readList fuel true (some (join (inBackground script)))
    | .sign ";" => readList fuel true (some (join script))
    | .newline =>
      pushBack
      readList fuel true (some (join script))
    | _ =>
      pushBack
      return join script

def listStep (mayBeEmpty : Bool) : Read Script := do
  readList inner ((← get).rest.length + 4) mayBeEmpty none

end Words

mutual

def listAt : Nat → Bool → Read Script
  | 0, _ => fail "end of file unexpected".toList
  | depth + 1, mayBeEmpty => listStep ⟨listAt depth, commandAt depth⟩ mayBeEmpty

def commandAt : Nat → Read Script
  | 0 => fail "end of file unexpected".toList
  | depth + 1 => commandStep ⟨listAt depth, commandAt depth⟩

end

def nesting : Nat := 1000

def inner : Inner := ⟨listAt nesting, commandAt nesting⟩

def readLine : Nat → Option Script → Read (Option Script × Bool)
  | 0, before => return (before, true)
  | fuel + 1, before => do
    match ← commandToken inner with
    | .newline =>
      readDocuments inner
      return (some (before.getD .skip), false)
    | .endOfFile =>
      readDocuments inner
      return (before, true)
    | _ =>
      pushBack
      let script ← readConditions inner ((← get).rest.length + 4) (← readPipeline inner)
      let join (script : Script) : Script := match before with
        | some first => .sequence first script
        | none => script
      match ← plainToken inner with
      | .sign "&" => readLine fuel (some (join (inBackground script)))
      | .sign ";" => readLine fuel (some (join script))
      | .newline =>
        pushBack
        readLine fuel (some (join script))
      | .endOfFile =>
        readDocuments inner
        return (some (join script), true)
      | _ => unexpected none

def Reader.next (r : Reader) : Except ScriptFault (Option Script × Bool × Reader) := do
  let ((script, ended), r) ←
    (readLine (r.rest.length + 4) none).run { r with pushed := false, pending := [] }
  return (script, ended, r)

end DatalogDoc.Shell
