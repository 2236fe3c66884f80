import DatalogDoc.Arguments
import Mathlib

/-!
# Ways to write a command line

Settings can be written in any order, each in one of several spellings. What is read from them
depends on the settings alone.
-/

namespace DatalogDoc

namespace Field

def longName? : Field → Option Text
  | input => none
  | preprocessor => some "preprocessor".toList
  | argument => some "preprocessor-arg".toList
  | output => some "output".toList
  | mode => some "mode".toList
  | title => some "title".toList
  | language => some "lang".toList

def shortName? : Field → Option Char
  | preprocessor => some 'p'
  | argument => some 'a'
  | output => some 'o'
  | mode => some 'm'
  | input | title | language => none

theorem ofLong?_longName {f : Field} {name : Text} (h : f.longName? = some name) :
    Entry.ofLong? name = some (.field f) ∧ '=' ∉ name ∧ name ≠ [] := by
  cases f <;> simp only [longName?, Option.some.injEq, reduceCtorEq] at h <;> subst h <;> decide

theorem ofShort?_shortName {f : Field} {c : Char} (h : f.shortName? = some c) :
    Entry.ofShort? c = some (.field f) ∧ c ≠ '-' := by
  cases f <;> simp only [shortName?, Option.some.injEq, reduceCtorEq] at h <;> subst h <;> decide

/-- The value may have an argument of its own: it does not look like an option, or the field takes
whatever comes next. -/
def Admits (f : Field) (v : Text) : Prop := f = .argument ∨ v = ['-'] ∨ v.head? ≠ some '-'

end Field

namespace Setting

def given? : Setting → Option (Field × Text)
  | input v => some (.input, v)
  | preprocessor v => some (.preprocessor, v)
  | argument v => some (.argument, v)
  | output v => some (.output, v)
  | mode m => some (.mode, m.name)
  | title v => some (.title, v)
  | language v => some (.language, v)
  | noDefaultArguments | allowEmpty | verbose => none

def flag? : Setting → Option (Flag × Text)
  | noDefaultArguments => some (.noDefaultArguments, "no-default-args".toList)
  | allowEmpty => some (.allowEmpty, "allow-empty".toList)
  | verbose => some (.verbose, "verbose".toList)
  | _ => none

theorem ofLong?_flag {s : Setting} {f : Flag} {name : Text} (h : s.flag? = some (f, name)) :
    Entry.ofLong? name = some (.flag f) ∧ name.takeWhile (· ≠ '=') = name ∧ name ≠ [] := by
  cases s with
  | noDefaultArguments | allowEmpty | verbose =>
    simp only [flag?, Option.some.injEq, Prod.mk.injEq] at h
    obtain ⟨rfl, rfl⟩ := h
    decide
  | _ => simp [flag?] at h

def Proper (s : Setting) : Prop := s ≠ .input [] ∧ s ≠ .output []

instance (s : Setting) : Decidable s.Proper := inferInstanceAs (Decidable (_ ∧ _))

theorem setting?_given {s : Setting} {f : Field} {v : Text} (h : s.given? = some (f, v))
    (hs : s.Proper) : f.setting? v = some s ∧ s.entry = .field f := by
  cases s with
  | noDefaultArguments | allowEmpty | verbose => simp [given?] at h
  | mode m =>
    simp only [given?, Option.some.injEq, Prod.mk.injEq] at h
    obtain ⟨rfl, rfl⟩ := h
    cases m <;> decide
  | input v | output v =>
    simp only [given?, Option.some.injEq, Prod.mk.injEq] at h
    obtain ⟨rfl, rfl⟩ := h
    simpa [Field.setting?, entry, Proper] using hs
  | preprocessor v | argument v | title v | language v =>
    simp only [given?, Option.some.injEq, Prod.mk.injEq] at h
    obtain ⟨rfl, rfl⟩ := h
    exact ⟨rfl, rfl⟩

/-- The arguments are a way to write the setting. -/
inductive Spelled : Setting → List Text → Prop
  | longEquals {s : Setting} {f : Field} {v name : Text} :
      s.given? = some (f, v) → f.longName? = some name →
      Spelled s ["--".toList ++ name ++ '=' :: v]
  | shortEquals {s : Setting} {f : Field} {v : Text} {c : Char} :
      s.given? = some (f, v) → f.shortName? = some c → Spelled s ['-' :: c :: '=' :: v]
  | long {s : Setting} {f : Field} {v name : Text} :
      s.given? = some (f, v) → f.longName? = some name → f.Admits v →
      Spelled s ["--".toList ++ name, v]
  | short {s : Setting} {f : Field} {v : Text} {c : Char} :
      s.given? = some (f, v) → f.shortName? = some c → f.Admits v → Spelled s [['-', c], v]
  | joined {s : Setting} {f : Field} {v : Text} {c : Char} :
      s.given? = some (f, v) → f.shortName? = some c → v ≠ [] → v.head? ≠ some '=' →
      Spelled s ['-' :: c :: v]
  | operand {v : Text} : Field.input.Admits v → Spelled (.input v) [v]
  | flag {s : Setting} {f : Flag} {name : Text} :
      s.flag? = some (f, name) → Spelled s ["--".toList ++ name]
  | verbose : Spelled .verbose ["-v".toList]

end Setting

/-- The arguments write the settings in their order. An operand at the end may be set off. -/
inductive CommandLine : List Setting → List Text → Prop
  | nil : CommandLine [] []
  | cons {s : Setting} {w : List Text} {ss : List Setting} {args : List Text} :
      s.Spelled w → CommandLine ss args → CommandLine (s :: ss) (w ++ args)
  | operand (v : Text) : CommandLine [.input v] ["--".toList, v]

/-- Only an extra argument for the preprocessor is set more than once. -/
def SetOnce (settings : List Setting) : Prop :=
  settings.Pairwise fun s t => s.entry = t.entry → s.entry = .field .argument

instance (settings : List Setting) : Decidable (SetOnce settings) :=
  inferInstanceAs (Decidable (List.Pairwise _ _))

namespace Reading

structure Holds (r : Reading) (ss : List Setting) : Prop where
  settle : r.settle = .ok ss
  hasOperand : r.hasOperand = ss.any (·.entry = .field .input)

def Follows (s : Setting) (ss : List Setting) : Prop :=
  s.Proper ∧ (s.entry = .field .argument ∨ ∀ t ∈ ss, t.entry ≠ s.entry)

theorem set_of_follows {s : Setting} {ss : List Setting} (h : Follows s ss) :
    set ss s.entry (some s) = .ok (ss ++ [s]) := by
  rw [set, if_neg]
  rintro ⟨hne, hany⟩
  simp only [List.any_eq_true, decide_eq_true_eq] at hany
  obtain ⟨t, ht, hte⟩ := hany
  rcases h.2 with h | h
  · exact hne h
  · exact h t ht hte

theorem Holds.pending_ne {r : Reading} {ss : List Setting} (h : r.Holds ss) (f : Field) :
    r.pending ≠ some (f, none) := by
  intro hp
  have hsettle := h.settle
  rw [Reading.settle, hp] at hsettle
  simp at hsettle

theorem holds_settled (ss : List Setting) : Holds { settings := ss } ss :=
  ⟨rfl, by simp [Reading.hasOperand]⟩

theorem holds_pending {s : Setting} {ss : List Setting} {f : Field} {v : Text}
    (hs : Follows s ss) (hgiven : s.given? = some (f, v)) :
    Holds { settings := ss, pending := some (f, some v) } (ss ++ [s]) := by
  obtain ⟨hsetting, hentry⟩ := Setting.setting?_given hgiven hs.1
  constructor
  · show set ss (.field f) (f.setting? v) = _
    rw [hsetting, ← hentry, set_of_follows hs]
  · simp [Reading.hasOperand, hentry]

theorem long_eq (r : Reading) {f : Field} {name : Text} (hname : f.longName? = some name) :
    r.long name = r.await f ∧ ∀ v, r.long (name ++ '=' :: v) = r.give f v := by
  obtain ⟨hlookup, heq, -⟩ := Field.ofLong?_longName hname
  have hwhole : ∀ c ∈ name, decide (c ≠ '=') = true := by
    intro c hc
    simpa using ne_of_mem_of_not_mem hc heq
  constructor
  · have htake : name.takeWhile (· ≠ '=') = name := List.takeWhile_eq_self_iff.mpr hwhole
    simp only [Reading.long, htake, hlookup, List.drop_length]
  · intro v
    have htake : (name ++ '=' :: v).takeWhile (· ≠ '=') = name := by
      rw [List.takeWhile_append_of_pos hwhole]
      simp
    simp only [Reading.long, htake, hlookup, List.drop_left]

theorem cluster_eq (r : Reading) {f : Field} {c : Char} (hname : f.shortName? = some c) :
    r.cluster [c] = r.await f ∧ (∀ v, r.cluster (c :: '=' :: v) = r.give f v) ∧
      ∀ v, v ≠ [] → v.head? ≠ some '=' → r.cluster (c :: v) = r.give f v := by
  obtain ⟨hlookup, -⟩ := Field.ofShort?_shortName hname
  refine ⟨?_, fun v => ?_, fun v hne heq => ?_⟩
  · simp only [cluster, hlookup]
  · simp only [cluster, hlookup]
  · simp only [cluster, hlookup]
    split
    case h_1 => exact absurd rfl hne
    case h_2 => simp at heq
    case h_3 => rfl

theorem long_flag (r : Reading) {s : Setting} {f : Flag} {name : Text}
    (h : s.flag? = some (f, name)) : r.long name = r.flag f true := by
  obtain ⟨hlookup, htake, -⟩ := Setting.ofLong?_flag h
  simp only [Reading.long, htake, hlookup, List.drop_length]

section Read

variable {r : Reading} {ss : List Setting} (hr : r.Holds ss) (ts : List Text)
include hr

theorem read_dashes : r.read (['-', '-'] :: ts) = r.operands ts := by
  rw [read]
  split
  · exact absurd ‹_› (hr.pending_ne _)
  · rfl

theorem read_long (name : Text) (hname : name ≠ []) :
    r.read (('-' :: '-' :: name) :: ts) = (r.long name).bind (·.read ts) := by
  rw [read]
  split
  · exact absurd ‹_› (hr.pending_ne _)
  · cases name with
    | nil => exact absurd rfl hname
    | cons c name => rfl

theorem read_cluster {c : Char} (hc : c ≠ '-') (cs : Text) :
    r.read (('-' :: c :: cs) :: ts) = (r.cluster (c :: cs)).bind (·.read ts) := by
  rw [read]
  split
  · exact absurd ‹_› (hr.pending_ne _)
  · split
    case h_1 heq => simp [hc] at heq
    case h_2 heq => simp [hc] at heq
    case h_3 heq =>
      obtain ⟨rfl, rfl⟩ : _ ∧ _ := by simpa using heq
      rfl
    case h_4 h => exact absurd rfl (h c cs)

theorem read_operand {t : Text} (ht : t = ['-'] ∨ t.head? ≠ some '-') :
    r.read (t :: ts) = (r.operand t).bind (·.read ts) := by
  rw [read]
  split
  · exact absurd ‹_› (hr.pending_ne _)
  · split
    case h_1 => simp at ht
    case h_2 => simp at ht
    case h_3 => simp at ht
    case h_4 =>
      split
      · exact absurd ‹_› (hr.pending_ne _)
      · rfl

theorem await_eq (f : Field) : r.await f = .ok { settings := ss, pending := some (f, none) } := by
  simp [Reading.await, hr.settle, bind, Except.bind, pure, Except.pure]

theorem give_eq {s : Setting} {f : Field} {v : Text} (hs : Follows s ss)
    (hgiven : s.given? = some (f, v)) : r.give f v = .ok { settings := ss ++ [s] } := by
  obtain ⟨hsetting, hentry⟩ := Setting.setting?_given hgiven hs.1
  simp [Reading.give, hr.settle, hsetting, ← hentry, set_of_follows hs, bind, Except.bind, pure,
    Except.pure]

theorem flag_eq {s : Setting} {f : Flag} {name : Text} (hs : Follows s ss)
    (hflag : s.flag? = some (f, name)) (l : Bool) :
    r.flag f l = .ok { settings := ss ++ [s] } := by
  have hset := set_of_follows hs
  cases s with
  | noDefaultArguments | allowEmpty | verbose =>
    simp only [Setting.flag?, Option.some.injEq, Prod.mk.injEq] at hflag
    obtain ⟨rfl, rfl⟩ := hflag
    simp only [Setting.entry] at hset
    simp [Reading.flag, hr.settle, hset, bind, Except.bind, pure, Except.pure]
  | _ => simp [Setting.flag?] at hflag

theorem operand_eq {v : Text} (hs : Follows (.input v) ss) :
    r.operand v = .ok { settings := ss, pending := some (.input, some v) } := by
  have hnone : r.hasOperand = false := by
    rw [hr.hasOperand, List.any_eq_false]
    intro t ht
    have hne : t.entry ≠ .field .input := hs.2.resolve_left (by simp [Setting.entry]) t ht
    simpa using hne
  simp [Reading.operand, hnone, hr.settle, bind, Except.bind, pure, Except.pure]

end Read

theorem read_value {ss : List Setting} {f : Field} {v : Text} (h : f.Admits v) (ts : List Text) :
    Reading.read { settings := ss, pending := some (f, none) } (v :: ts) =
      Reading.read { settings := ss, pending := some (f, some v) } ts := by
  rw [read]
  split
  case h_1 heq =>
    obtain rfl : f = .argument := by simpa using heq
    rfl
  case h_2 hne =>
    have hv : v = ['-'] ∨ v.head? ≠ some '-' := h.resolve_left fun hf => hne (by rw [hf])
    split
    case h_1 => simp at hv
    case h_2 => simp at hv
    case h_3 => simp at hv
    case h_4 => rfl

theorem read_spelled {r : Reading} {ss : List Setting} {s : Setting} {w : List Text}
    (hr : r.Holds ss) (hs : Follows s ss) (hw : s.Spelled w) :
    ∃ r' : Reading, r'.Holds (ss ++ [s]) ∧ ∀ rest, r.read (w ++ rest) = r'.read rest := by
  cases hw with
  | @longEquals _ f v name hgiven hname =>
    refine ⟨_, holds_settled _, fun rest => ?_⟩
    have hread := read_long hr rest (name ++ '=' :: v) (by simp)
    rw [(long_eq r hname).2 v, give_eq hr hs hgiven] at hread
    exact hread
  | @shortEquals _ f v c hgiven hname =>
    refine ⟨_, holds_settled _, fun rest => ?_⟩
    have hread := read_cluster hr rest (Field.ofShort?_shortName hname).2 ('=' :: v)
    rw [(cluster_eq r hname).2.1 v, give_eq hr hs hgiven] at hread
    exact hread
  | @long _ f v name hgiven hname hv =>
    refine ⟨_, holds_pending hs hgiven, fun rest => ?_⟩
    have hread := read_long hr (v :: rest) name (Field.ofLong?_longName hname).2.2
    rw [(long_eq r hname).1, await_eq hr] at hread
    exact hread.trans (read_value hv rest)
  | @short _ f v c hgiven hname hv =>
    refine ⟨_, holds_pending hs hgiven, fun rest => ?_⟩
    have hread := read_cluster hr (v :: rest) (Field.ofShort?_shortName hname).2 []
    rw [(cluster_eq r hname).1, await_eq hr] at hread
    exact hread.trans (read_value hv rest)
  | @joined _ f v c hgiven hname hne heq =>
    refine ⟨_, holds_settled _, fun rest => ?_⟩
    have hread := read_cluster hr rest (Field.ofShort?_shortName hname).2 v
    rw [(cluster_eq r hname).2.2 v hne heq, give_eq hr hs hgiven] at hread
    exact hread
  | @operand v hv =>
    refine ⟨_, holds_pending hs rfl, fun rest => ?_⟩
    have hread := read_operand hr rest (hv.resolve_left (by simp))
    rw [operand_eq hr hs] at hread
    exact hread
  | @flag _ f name hflag =>
    refine ⟨_, holds_settled _, fun rest => ?_⟩
    have hread := read_long hr rest name (Setting.ofLong?_flag hflag).2.2
    rw [long_flag r hflag, flag_eq hr hs hflag] at hread
    exact hread
  | verbose =>
    refine ⟨_, holds_settled _, fun rest => ?_⟩
    have hread := read_cluster hr rest (show 'v' ≠ '-' by decide) []
    have hcluster : r.cluster ['v'] = .ok { settings := ss ++ [.verbose] } := by
      show (r.flag .verbose false).bind _ = _
      rw [flag_eq hr hs rfl]
      rfl
    rw [hcluster] at hread
    exact hread

theorem follows_of_setOnce {s : Setting} {ss settings : List Setting} (hs : s.Proper)
    (h : SetOnce (ss ++ s :: settings)) : Follows s ss := by
  refine ⟨hs, ?_⟩
  by_cases hentry : s.entry = .field .argument
  · exact .inl hentry
  · refine .inr fun t ht hte => ?_
    have h := (List.pairwise_append.mp h).2.2 t ht s (by simp) hte
    exact hentry (hte ▸ h)

theorem read_commandLine {settings : List Setting} {args : List Text}
    (h : CommandLine settings args) {r : Reading} {ss : List Setting} (hr : r.Holds ss)
    (hproper : ∀ s ∈ settings, s.Proper) (honce : SetOnce (ss ++ settings)) :
    ∃ r', r.read args = .ok r' ∧ r'.Holds (ss ++ settings) := by
  induction h generalizing r ss with
  | nil => exact ⟨r, rfl, by simpa using hr⟩
  | @cons s w settings args hw _ ih =>
    have hs := follows_of_setOnce (hproper s (by simp)) honce
    obtain ⟨r', hr', hread⟩ := read_spelled hr hs hw
    rw [hread]
    simpa using ih hr' (fun t ht => hproper t (by simp [ht])) (by simpa using honce)
  | operand v =>
    have hs := follows_of_setOnce (hproper _ (by simp)) honce
    refine ⟨_, ?_, holds_pending hs rfl⟩
    have hread := read_dashes hr [v]
    rw [operands, operand_eq hr hs] at hread
    exact hread

end Reading

namespace Arguments

/-- The value that one kind of setting makes: the one that was set, or the default. -/
def Chosen {α β : Type} (settings : List Setting) (make : α → Setting) (of : α → β) (default : β)
    (value : β) : Prop :=
  (∀ v, make v ∈ settings → value = of v) ∧ ((∀ v, make v ∉ settings) → value = default)

def given (settings : List Setting) : List Text :=
  settings.filterMap fun
    | .argument v => some v
    | _ => none

/-- The arguments say what the settings do, and are the default ones elsewhere. -/
structure Reflects (a : Arguments) (settings : List Setting) : Prop where
  input : Chosen settings .input id ({} : Config).input a.config.input
  program : Chosen settings .preprocessor id ({} : Config).preprocessor.program
    a.config.preprocessor.program
  arguments : a.config.preprocessor.arguments =
    if given settings ≠ [] then given settings
    else if .noDefaultArguments ∈ settings then []
    else ({} : Config).preprocessor.arguments
  mode : Chosen settings .mode id ({} : Config).mode a.config.mode
  title : Chosen settings .title id ({} : Config).layout.title a.config.layout.title
  language : Chosen settings .language id ({} : Config).layout.language a.config.layout.language
  allowEmpty : a.config.allowEmpty = true ↔ .allowEmpty ∈ settings
  output : Chosen settings .output some none a.output
  verbose : a.verbose = true ↔ .verbose ∈ settings

theorem eq_of_entry_eq {settings : List Setting} (h : SetOnce settings) {s t : Setting}
    (hs : s ∈ settings) (ht : t ∈ settings) (hst : s.entry = t.entry)
    (hne : s.entry ≠ .field .argument) : s = t := by
  by_contra hneq
  have : Std.Symm fun s t : Setting => s.entry = t.entry → s.entry = .field .argument :=
    ⟨fun s t hr hts => hts ▸ hr hts.symm⟩
  exact hne (List.Pairwise.forall h hs ht hneq hst)

theorem chosen_findSome? {α : Type} {settings : List Setting} (h : SetOnce settings)
    {make : α → Setting} {read : Setting → Option α}
    (hread : ∀ s v, read s = some v ↔ s = make v)
    (hentry : ∀ v w, (make v).entry = (make w).entry)
    (hne : ∀ v, (make v).entry ≠ .field .argument) :
    Chosen settings make some none (settings.findSome? read) := by
  constructor
  · intro v hv
    cases hfound : settings.findSome? read with
    | none =>
      have hnone := List.findSome?_eq_none_iff.mp hfound (make v) hv
      rw [(hread _ v).mpr rfl] at hnone
      simp at hnone
    | some w =>
      obtain ⟨s, hs, hsw⟩ := List.exists_of_findSome?_eq_some hfound
      obtain rfl := (hread s w).mp hsw
      have heq := eq_of_entry_eq h hs hv (hentry w v) (hne w)
      rw [← hsw, heq, (hread _ v).mpr rfl]
  · intro hnone
    refine List.findSome?_eq_none_iff.mpr fun s hs => ?_
    by_contra hsome
    obtain ⟨v, hv⟩ := Option.ne_none_iff_exists'.mp hsome
    exact hnone v ((hread s v).mp hv ▸ hs)

theorem Chosen.getD {α : Type} {settings : List Setting} {make : α → Setting} {o : Option α}
    (h : Chosen settings make some none o) (default : α) :
    Chosen settings make id default (o.getD default) := by
  constructor
  · intro v hv
    rw [h.1 v hv, Option.getD_some, id]
  · intro hnone
    rw [h.2 hnone, Option.getD_none]

theorem preprocessorArguments_eq (settings : List Setting) :
    preprocessorArguments settings =
      if given settings ≠ [] then given settings
      else if .noDefaultArguments ∈ settings then []
      else ({} : Config).preprocessor.arguments := by
  show (if (given settings).isEmpty && !settings.contains .noDefaultArguments then _
    else given settings) = _
  by_cases hgiven : given settings = []
  · by_cases hnone : .noDefaultArguments ∈ settings
    · simp [hgiven, hnone]
    · simp [hgiven, hnone]
  · simp [hgiven]

theorem reflects_ofSettings {settings : List Setting} (h : SetOnce settings) :
    (ofSettings settings).Reflects settings where
  input := (chosen_findSome? h (by intro s v; cases s <;> simp) (by simp [Setting.entry])
    (by simp [Setting.entry])).getD _
  program := (chosen_findSome? h (by intro s v; cases s <;> simp) (by simp [Setting.entry])
    (by simp [Setting.entry])).getD _
  arguments := preprocessorArguments_eq settings
  mode := (chosen_findSome? h (by intro s v; cases s <;> simp) (by simp [Setting.entry])
    (by simp [Setting.entry])).getD _
  title := (chosen_findSome? h (by intro s v; cases s <;> simp) (by simp [Setting.entry])
    (by simp [Setting.entry])).getD _
  language := (chosen_findSome? h (by intro s v; cases s <;> simp) (by simp [Setting.entry])
    (by simp [Setting.entry])).getD _
  allowEmpty := by simp [ofSettings]
  output := chosen_findSome? h (by intro s v; cases s <;> simp) (by simp [Setting.entry])
    (by simp [Setting.entry])
  verbose := by simp [ofSettings]

/-- However the settings are ordered and spelled, reading the command line succeeds, and what it
asks for are the settings, with the defaults for all that is not set. -/
theorem parse_commandLine {settings : List Setting} {args : List Text}
    (h : CommandLine settings args) (honce : SetOnce settings)
    (hproper : ∀ s ∈ settings, s.Proper) :
    ∃ a, parse args = .ok a ∧ a.Reflects settings := by
  obtain ⟨r, hread, hr⟩ := Reading.read_commandLine h (Reading.holds_settled []) hproper honce
  refine ⟨ofSettings settings, ?_, reflects_ofSettings honce⟩
  have hsettle := hr.settle
  simp [parse, hread, hsettle, bind, Except.bind, pure, Except.pure]

def knottySettings : List Setting :=
  [.argument "--help".toList, .title [], .argument "--".toList, .mode .balanced, .verbose,
    .output "-".toList, .language "=x".toList, .preprocessor "=".toList, .input "-v".toList]

def knottyArguments : List Text :=
  ["-a", "--help", "--title=", "--preprocessor-arg", "--", "-mbalanced", "-v", "-o", "-",
    "--lang==x", "-p==", "--", "-v"].map String.toList

theorem commandLine_knotty : CommandLine knottySettings knottyArguments := by
  have help : (Setting.argument "--help".toList).Spelled ["-a".toList, "--help".toList] :=
    .short (f := .argument) (c := 'a') rfl rfl (.inl rfl)
  have title : (Setting.title []).Spelled ["--title=".toList] :=
    .longEquals (f := .title) (v := []) rfl rfl
  have dashes : (Setting.argument "--".toList).Spelled
      ["--preprocessor-arg".toList, "--".toList] :=
    .long (f := .argument) rfl rfl (.inl rfl)
  have mode : (Setting.mode .balanced).Spelled ["-mbalanced".toList] :=
    .joined (f := .mode) (v := Mode.balanced.name) (c := 'm') rfl rfl (by decide) (by decide)
  have output : (Setting.output "-".toList).Spelled ["-o".toList, "-".toList] :=
    .short (f := .output) (c := 'o') rfl rfl (.inr (.inl rfl))
  have language : (Setting.language "=x".toList).Spelled ["--lang==x".toList] :=
    .longEquals (f := .language) (v := "=x".toList) rfl rfl
  have program : (Setting.preprocessor "=".toList).Spelled ["-p==".toList] :=
    .shortEquals (f := .preprocessor) (v := "=".toList) (c := 'p') rfl rfl
  exact .cons help <| .cons title <| .cons dashes <| .cons mode <| .cons .verbose <|
    .cons output <| .cons language <| .cons program <| .operand "-v".toList

theorem knottyArguments_parse_commandLine :
    CommandLine knottySettings knottyArguments ∧ SetOnce knottySettings ∧
      (∀ s ∈ knottySettings, s.Proper) ∧
      ∃ a, parse knottyArguments = .ok a ∧ a.Reflects knottySettings :=
  ⟨commandLine_knotty, by decide, by decide,
    parse_commandLine commandLine_knotty (by decide) (by decide)⟩

end Arguments

end DatalogDoc
