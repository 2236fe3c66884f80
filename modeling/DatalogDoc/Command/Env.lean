import DatalogDoc.Host.Image

/-!
# Running a program in a changed environment

`env` takes options, then variables with their values, then a command; without a command it prints
the variables.
-/

namespace DatalogDoc.Command

structure EnvRequest where
  environment : List (Text × Text)
  words : List Text
  zero : Bool := false

namespace EnvRequest

def unset (r : EnvRequest) (name : Text) : EnvRequest :=
  { r with environment := r.environment.filter fun entry => entry.1 ≠ name }

def splitWords (t : Text) : List Text :=
  let (words, last) := t.foldr
    (fun c (words, word) =>
      if c = ' ' || c = '\t' || c = '\n' then
        (if word.isEmpty then words else word :: words, [])
      else (words, c :: word))
    ([], [])
  if last.isEmpty then words else last :: words

def options : Nat → EnvRequest → Except Text EnvRequest
  | 0, r => .ok r
  | fuel + 1, r =>
    match r.words with
    | ['-', '-'] :: rest => .ok { r with words := rest }
    | ['-'] :: rest => options fuel { r with environment := [], words := rest }
    | ('-' :: '-' :: name) :: rest =>
      let value := name.drop "unset=".length
      match String.ofList name with
      | "ignore-environment" => options fuel { r with environment := [], words := rest }
      | "null" => options fuel { r with zero := true, words := rest }
      | _ =>
        if "unset=".toList.isPrefixOf name then options fuel ({ r with words := rest }.unset value)
        else if "split-string=".toList.isPrefixOf name then
          options fuel { r with words := splitWords (name.drop "split-string=".length) ++ rest }
        else .error ("unrecognized option '--".toList ++ name ++ ['\''])
    | ('-' :: c :: cs) :: rest =>
      let again := if cs.isEmpty then rest else ('-' :: cs) :: rest
      match c with
      | 'i' => options fuel { r with environment := [], words := again }
      | '0' => options fuel { r with zero := true, words := again }
      | 'v' => options fuel { r with words := again }
      | 'u' | 'S' =>
        let found := if cs.isEmpty then rest.head?.map (·, rest.tail) else some (cs, rest)
        match found with
        | none => .error ("option requires an argument -- '".toList ++ [c, '\''])
        | some (value, rest) =>
          if c = 'u' then options fuel ({ r with words := rest }.unset value)
          else options fuel { r with words := splitWords value ++ rest }
      | _ => .error ("invalid option -- '".toList ++ [c, '\''])
    | _ => .ok r

def assignments (r : EnvRequest) : List Text → EnvRequest
  | [] => { r with words := [] }
  | word :: rest =>
    let name := word.takeWhile (· ≠ '=')
    match word.drop name.length with
    | _ :: value =>
      assignments { r.unset name with environment := (r.unset name).environment ++ [(name, value)] }
        rest
    | [] => { r with words := word :: rest }

end EnvRequest

def findProgram (files : Files) (environment : List (Text × Text)) (name : Text) (args : List Text) :
    Except OsError Image :=
  let places := if name.contains '/' then [name]
    else (((environment.lookup "PATH".toList).getD "/bin:/usr/bin".toList).splitOn ':').map fun d =>
      if d.isEmpty then name else d ++ '/' :: name
  go .notFound places
where
  go (e : OsError) : List Text → Except OsError Image
    | [] => .error e
    | file :: rest =>
      match files.image file name args Image.chain with
      | .ok image => .ok image
      | .error .badFormat => .ok ⟨.shell, "/bin/sh".toList, file :: args⟩
      | .error reason => go (if reason = .notFound || reason = .notDirectory then e else reason) rest

def env (tool : Tool → Behaviour) : Behaviour := fun p => do
  let size := p.arguments.flatten.length + p.arguments.length + 1
  match EnvRequest.options (2 * size) { environment := p.environment, words := p.arguments } with
  | .error reason =>
    p.complain (p.name ++ ": ".toList ++ reason)
    p.complain ("Try '".toList ++ p.name ++ " --help' for more information.".toList)
    return .exited 125
  | .ok r =>
    let r := r.assignments r.words
    match r.words with
    | [] =>
      let ending := if r.zero then '\x00' else '\n'
      let _ ← p.write 1 (r.environment.flatMap fun (name, value) => name ++ '=' :: value ++ [ending])
      return .exited 0
    | name :: args =>
      match findProgram (← get).files r.environment name args with
      | .ok image =>
        tool image.tool { p with
          name := image.name, arguments := image.arguments, environment := r.environment }
      | .error e =>
        p.complain (p.name ++ ": '".toList ++ name ++ "': ".toList ++ e.description)
        if e = .notFound && name.any fun c => c = ' ' || c = '\t' then
          p.complain (p.name ++ ": use -[v]S to pass options in shebang lines".toList)
        return .exited (if e = .notFound then 127 else 126)

end DatalogDoc.Command
