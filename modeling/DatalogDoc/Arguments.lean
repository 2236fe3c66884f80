import DatalogDoc.Config

/-!
# The command line

Arguments are read from left to right. A value that stands in an argument of its own is pending
until the next option, the operand or the end is met, and only then checked.
-/

namespace DatalogDoc

inductive Setting
  | input (path : Text)
  | preprocessor (program : Text)
  | argument (value : Text)
  | output (path : Text)
  | mode (mode : Mode)
  | title (title : Text)
  | language (tag : Text)
  | noDefaultArguments
  | allowEmpty
  | verbose
deriving DecidableEq

inductive Field
  | input
  | preprocessor
  | argument
  | output
  | mode
  | title
  | language
deriving DecidableEq

inductive Flag
  | noDefaultArguments
  | allowEmpty
  | verbose
  | help
  | version
deriving DecidableEq

inductive Entry
  | field (f : Field)
  | flag (f : Flag)
deriving DecidableEq

inductive Stop
  | unknownArgument
  | invalidValue
  | argumentConflict
  | tooManyValues
  /-- The help text is wanted, in full or as a summary. -/
  | help (full : Bool)
  | version
deriving DecidableEq

namespace Entry

def longNames : List (Text × Entry) :=
  [("preprocessor".toList, field .preprocessor),
   ("preprocessor-arg".toList, field .argument),
   ("no-default-args".toList, flag .noDefaultArguments),
   ("output".toList, field .output),
   ("mode".toList, field .mode),
   ("title".toList, field .title),
   ("lang".toList, field .language),
   ("allow-empty".toList, flag .allowEmpty),
   ("verbose".toList, flag .verbose),
   ("help".toList, flag .help),
   ("version".toList, flag .version)]

def shortNames : List (Char × Entry) :=
  [('p', field .preprocessor),
   ('a', field .argument),
   ('o', field .output),
   ('m', field .mode),
   ('v', flag .verbose),
   ('h', flag .help),
   ('V', flag .version)]

def ofLong? (name : Text) : Option Entry := longNames.lookup name

def ofShort? (name : Char) : Option Entry := shortNames.lookup name

end Entry

/-- The setting that a value makes, if the field admits the value: paths are not empty, and a mode
goes by its exact name. -/
def Field.setting? : Field → Text → Option Setting
  | input, v => if v = [] then none else some (.input v)
  | preprocessor, v => some (.preprocessor v)
  | argument, v => some (.argument v)
  | output, v => if v = [] then none else some (.output v)
  | mode, v => (Mode.ofName? v).map .mode
  | title, v => some (.title v)
  | language, v => some (.language v)

def Setting.entry : Setting → Entry
  | input _ => .field .input
  | preprocessor _ => .field .preprocessor
  | argument _ => .field .argument
  | output _ => .field .output
  | mode _ => .field .mode
  | title _ => .field .title
  | language _ => .field .language
  | noDefaultArguments => .flag .noDefaultArguments
  | allowEmpty => .flag .allowEmpty
  | verbose => .flag .verbose

structure Arguments where
  config : Config := {}
  output : Option Text := none
  verbose : Bool := false
deriving DecidableEq

namespace Arguments

/-- The preprocessor gets the arguments given for it. Where none is given it gets the default ones,
unless these are turned off. -/
def preprocessorArguments (settings : List Setting) : List Text :=
  let given := settings.filterMap fun
    | .argument v => some v
    | _ => none
  if given.isEmpty && !settings.contains .noDefaultArguments then
    ({} : Preprocessor).arguments
  else
    given

def ofSettings (settings : List Setting) : Arguments :=
  let pick {α : Type} (default : α) (read : Setting → Option α) : α :=
    (settings.findSome? read).getD default
  let defaults : Config := {}
  { config :=
      { input := pick defaults.input fun
          | .input v => some v
          | _ => none
        preprocessor :=
          { program := pick defaults.preprocessor.program fun
              | .preprocessor v => some v
              | _ => none
            arguments := preprocessorArguments settings }
        mode := pick defaults.mode fun
          | .mode m => some m
          | _ => none
        layout :=
          { title := pick defaults.layout.title fun
              | .title v => some v
              | _ => none
            language := pick defaults.layout.language fun
              | .language v => some v
              | _ => none }
        allowEmpty := settings.contains .allowEmpty }
    output := settings.findSome? fun
      | .output v => some v
      | _ => none
    verbose := settings.contains .verbose }

end Arguments

structure Reading where
  settings : List Setting := []
  pending : Option (Field × Option Text) := none

namespace Reading

/-- Adds a setting, which only extra arguments for the preprocessor may repeat. -/
def set (settings : List Setting) (entry : Entry) (setting : Option Setting) :
    Except Stop (List Setting) :=
  if entry ≠ .field .argument ∧ settings.any (·.entry = entry) then
    .error .argumentConflict
  else
    match setting with
    | some s => .ok (settings ++ [s])
    | none => .error .invalidValue

def settle (r : Reading) : Except Stop (List Setting) :=
  match r.pending with
  | none => .ok r.settings
  | some (_, none) => .error .invalidValue
  | some (f, some v) => set r.settings (.field f) (f.setting? v)

def await (r : Reading) (f : Field) : Except Stop Reading := do
  return { settings := ← r.settle, pending := some (f, none) }

def give (r : Reading) (f : Field) (v : Text) : Except Stop Reading := do
  return { settings := ← set (← r.settle) (.field f) (f.setting? v) }

def flag (r : Reading) (f : Flag) (long : Bool) : Except Stop Reading := do
  let settings ← r.settle
  let add (s : Setting) : Except Stop Reading := do
    return { settings := ← set settings (.flag f) (some s) }
  match f with
  | .help => .error (.help long)
  | .version => .error .version
  | .noDefaultArguments => add .noDefaultArguments
  | .allowEmpty => add .allowEmpty
  | .verbose => add .verbose

def long (r : Reading) (t : Text) : Except Stop Reading :=
  let name := t.takeWhile (· ≠ '=')
  match Entry.ofLong? name, t.drop name.length with
  | none, _ => .error .unknownArgument
  | some (.flag f), [] => r.flag f true
  | some (.flag _), _ => .error .tooManyValues
  | some (.field f), [] => r.await f
  | some (.field f), _ :: v => r.give f v

/-- An argument that starts with one hyphen, without it. The first option that takes a value takes
all that follows, less one equals sign. -/
def cluster (r : Reading) : Text → Except Stop Reading
  | [] => .ok r
  | c :: t =>
    match Entry.ofShort? c with
    | none => .error .unknownArgument
    | some (.flag f) => do cluster (← r.flag f false) t
    | some (.field f) =>
      match t with
      | [] => r.await f
      | '=' :: v => r.give f v
      | v => r.give f v

def hasOperand (r : Reading) : Bool :=
  r.settings.any (·.entry = .field .input) || r.pending.any (·.1 = .input)

def operand (r : Reading) (t : Text) : Except Stop Reading :=
  if r.hasOperand then
    .error .unknownArgument
  else do
    return { settings := ← r.settle, pending := some (.input, some t) }

def operands (r : Reading) : List Text → Except Stop Reading
  | [] => .ok r
  | t :: ts => do operands (← r.operand t) ts

/-- Reads the arguments. An extra argument for the preprocessor may look like anything, also like an
option; any other value that does is read as one. -/
def read (r : Reading) : List Text → Except Stop Reading
  | [] => .ok r
  | t :: ts =>
    match r.pending with
    | some (.argument, none) => read { r with pending := some (.argument, some t) } ts
    | pending =>
      match t with
      | ['-', '-'] => operands r ts
      | '-' :: '-' :: name => do read (← r.long name) ts
      | '-' :: c :: cs => do read (← r.cluster (c :: cs)) ts
      | t =>
        match pending with
        | some (f, none) => read { r with pending := some (f, some t) } ts
        | _ => do read (← r.operand t) ts

end Reading

def Arguments.parse (args : List Text) : Except Stop Arguments := do
  let reading ← Reading.read {} args
  return ofSettings (← reading.settle)

end DatalogDoc
