import DatalogDoc.Proofs.LexemeSteps
import DatalogDoc.Proofs.Resuming

/-!
# Calls, one character at a time

A call passes one lexeme after another as a walk over them does, so the calls that are made step by
step have the outcomes of the scanner, and each of them ends.
-/

namespace DatalogDoc.Stepping

open Lexeme StateTransition

variable {t read rest : Text} {call : Call} {outcomes : List (Except ScanError (List Block))}

/-! ### Code -/

theorem literal?_code {c : Char} (hc : (code c).Fits rest) (h : t = read ++ c :: rest) :
    literal? t (.behind read) = none := by
  have hpeek : (Cursor.behind read).peek t = some c := Cursor.peek_behind h
  have hnext : (Cursor.behind read).peekNext t = rest.head? := Cursor.peekNext_behind h
  obtain ⟨hquote, hslash⟩ := hc
  rw [literal?, hpeek, hnext]
  by_cases hc : c = '/'
  · obtain ⟨hstar, hsecond⟩ := hslash hc
    subst hc
    simp [hstar, hsecond]
  · split <;> simp_all

theorem literal?_end (h : t = read ++ []) : literal? t (.behind read) = none := by
  have hpeek : (Cursor.behind read).peek t = none := Cursor.peek_behind h
  rw [literal?, hpeek]

theorem fits_brace {c : Char} (hc : c = '{' ∨ c = '}') (rest : Text) : (code c).Fits rest := by
  rcases hc with rfl | rfl <;> simp [Fits]

theorem step_outside_end (hcall : call.reading = .code) (hbody : call.body = none)
    (h : t = read ++ []) :
    step t (inCall read call outcomes) =
      some (between read (outcomes ++ [.ok call.found])) := by
  have hpeek : (Cursor.behind read).peek t = none := Cursor.peek_behind h
  simp only [step, hcall, hbody, stepOutside, literal?_end h, hpeek, State.finish]

theorem step_outside_code (hcall : call.reading = .code) (hbody : call.body = none) {c : Char}
    (hc : (code c).Fits rest) (hopen : c ≠ '{') (h : t = read ++ c :: rest) :
    step t (inCall read call outcomes) = some (inCall (read ++ [c]) call outcomes) := by
  have hpeek : (Cursor.behind read).peek t = some c := Cursor.peek_behind h
  simp only [step, hcall, hbody, stepOutside, literal?_code hc h, hpeek, Cursor.advance_behind h,
    State.proceed]

theorem step_outside_open (hcall : call.reading = .code) (hbody : call.body = none)
    (h : t = read ++ '{' :: rest) :
    step t (inCall read call outcomes) =
      some (inCall (read ++ ['{'])
        { call with body := some ⟨Block.nameOfRun?
            ((read.drop call.segment).reverse.takeWhile Block.isNameChar),
          .behind read, (read ++ ['{']).length, 1⟩ } outcomes) := by
  have hpeek : (Cursor.behind read).peek t = some '{' := Cursor.peek_behind h
  have hliteral := literal?_code (fits_brace (.inl rfl) rest) h
  have hname : nameAt? t call.segment (Cursor.behind read).position = _ :=
    h ▸ nameAt?_append call.segment read ('{' :: rest)
  simp only [step, hcall, hbody, stepOutside, hliteral, hpeek, hname, Cursor.advance_behind h,
    State.proceed, Option.map_some]
  rfl

variable {b : OpenBody}

theorem step_inside_end (hcall : call.reading = .code) (hbody : call.body = some b)
    (h : t = read ++ []) :
    step t (inCall read call outcomes) =
      some (between read (outcomes ++ [.error ⟨.openBlock, b.opener⟩])) := by
  have hpeek : (Cursor.behind read).peek t = none := Cursor.peek_behind h
  simp only [step, hcall, hbody, stepInside, literal?_end h, hpeek, State.finish]

theorem step_inside_code (hcall : call.reading = .code) (hbody : call.body = some b) {c : Char}
    (hc : (code c).Fits rest) (hopen : c ≠ '{') (hclose : c ≠ '}') (h : t = read ++ c :: rest) :
    step t (inCall read call outcomes) = some (inCall (read ++ [c]) call outcomes) := by
  have hpeek : (Cursor.behind read).peek t = some c := Cursor.peek_behind h
  simp only [step, hcall, hbody, stepInside, literal?_code hc h, hpeek, Cursor.advance_behind h,
    State.proceed]

theorem step_inside_open (hcall : call.reading = .code) (hbody : call.body = some b)
    (h : t = read ++ '{' :: rest) :
    step t (inCall read call outcomes) =
      some (inCall (read ++ ['{']) { call with body := some { b with depth := b.depth + 1 } }
        outcomes) := by
  have hpeek : (Cursor.behind read).peek t = some '{' := Cursor.peek_behind h
  have hliteral := literal?_code (fits_brace (.inl rfl) rest) h
  simp only [step, hcall, hbody, stepInside, hliteral, hpeek, Cursor.advance_behind h,
    State.proceed]

theorem step_inside_inner (hcall : call.reading = .code) (hbody : call.body = some b) {depth : Nat}
    (hdepth : b.depth = depth + 2) (h : t = read ++ '}' :: rest) :
    step t (inCall read call outcomes) =
      some (inCall (read ++ ['}']) { call with body := some { b with depth := depth + 1 } }
        outcomes) := by
  have hpeek : (Cursor.behind read).peek t = some '}' := Cursor.peek_behind h
  have hliteral := literal?_code (fits_brace (.inr rfl) rest) h
  have hsub : sub? b.depth 1 = some (depth + 1) := by
    rw [hdepth]
    rfl
  simp only [step, hcall, hbody, stepInside, hliteral, hpeek, hsub, Cursor.advance_behind h,
    State.proceed]
  rfl

theorem step_inside_close (hcall : call.reading = .code) (hbody : call.body = some b)
    (hdepth : b.depth = 1) (hstart : b.start ≤ read.length) (h : t = read ++ '}' :: rest) :
    step t (inCall read call outcomes) =
      some (inCall (read ++ ['}'])
        { call with
          segment := (read ++ ['}']).length
          found := call.found ++ (b.close (read.drop b.start)).toList
          body := none }
        outcomes) := by
  have hpeek : (Cursor.behind read).peek t = some '}' := Cursor.peek_behind h
  have hliteral := literal?_code (fits_brace (.inr rfl) rest) h
  have hsub : sub? b.depth 1 = some 0 := by
    rw [hdepth]
    rfl
  have hslice : slice? t b.start (Cursor.behind read).position = some (read.drop b.start) := by
    rw [h]
    change slice? (read ++ '}' :: rest) b.start read.length = some (read.drop b.start)
    rw [slice?, if_pos (by simp [hstart]), List.take_left]
  simp only [step, hcall, hbody, stepInside, hliteral, hpeek, hsub, hslice,
    Cursor.advance_behind h, State.proceed]
  rfl

/-! ### One lexeme after another -/

/-- What a call keeps of the text read, beside what a scan keeps in its context. -/
inductive Keeps (read : Text) (segment : Nat) : Option OpenBody → Context → Prop
  | outside :
      Keeps read segment none (.outside ((read.drop segment).reverse.takeWhile Block.isNameChar))
  | inside (b : OpenBlock) (start : Nat) :
      start ≤ read.length → read.drop start = b.body →
        Keeps read segment (some ⟨b.name, b.location, start, b.depth + 1⟩) (.inside b)

/-- A call that is about to read a lexeme stands where a walk over lexemes does. -/
structure Follows (read : Text) (call : Call) (p : Walk) : Prop where
  reading : call.reading = .code
  segment : call.segment ≤ read.length
  keeps : Keeps read call.segment call.body p.context
  found : call.found = p.blocks
  location : p.location = .behind read

theorem behind_after (read u : Text) :
    (Location.behind read).after u = Location.behind (read ++ u) := by
  rw [← Location.start_after, ← Location.start_after, Location.after_append]

theorem Keeps.push {segment start : Nat} {b : OpenBlock} (hstart : start ≤ read.length)
    (hbody : read.drop start = b.body) (l : Lexeme) (n : Nat) :
    Keeps (read ++ l.text) segment (some ⟨b.name, b.location, start, n + 1⟩)
      (.inside { b.push l with depth := n }) := by
  have hmore : (read ++ l.text).drop start = b.body ++ l.text := by
    rw [List.drop_append_of_le_length hstart, hbody]
  refine .inside { b.push l with depth := n } start ?_ ?_
  · rw [List.length_append]
    omega
  · rw [hmore]
    simp [OpenBlock.body, OpenBlock.push]

theorem Keeps.fresh (u : Text) : Keeps u u.length none (.outside []) := by
  have hkeeps : Keeps u u.length none _ := .outside
  rwa [List.drop_length] at hkeeps

theorem step_outside_literal (here : Location) (run : Text) {l : Lexeme}
    (hcode : ∀ c, l ≠ code c) : (Context.outside run).step here l = (.outside [], none) := by
  cases l with
  | code c => exact (hcode c rfl).elim
  | _ => rfl

theorem length_le_append {n : Nat} (h : n ≤ read.length) (u : Text) : n ≤ (read ++ u).length := by
  rw [List.length_append]
  exact Nat.le_add_right_of_le h

theorem Follows.literal {p : Walk} (hp : Follows read call p) {l : Lexeme} (hl : l.Fits rest)
    (hfault : l.fault? = none) (hcode : ∀ c, l ≠ code c) (h : t = read ++ (l.text ++ rest)) :
    ∃ call', Reaches (step t) (inCall read call outcomes) (inCall (read ++ l.text) call' outcomes) ∧
      Follows (read ++ l.text) call' (p.next l) := by
  refine ⟨_, reaches_literal hl hfault hcode hp.reading h, ?_⟩
  obtain ⟨here, ctx, blocks⟩ := p
  obtain ⟨segment, found, body, reading⟩ := call
  obtain ⟨-, hsegment, hkeeps, rfl, rfl⟩ := hp
  cases hkeeps with
  | outside =>
    rw [Walk.next, step_outside_literal _ _ hcode]
    exact ⟨rfl, le_refl _, .fresh _, (List.append_nil _).symm, behind_after _ _⟩
  | inside b start hstart hbody =>
    have hlevel : levelBehind b.depth l = some b.depth := by
      rw [levelBehind, if_neg (hcode '{'), if_neg (hcode '}')]
    rw [Walk.next, Context.step_inside, hlevel]
    exact ⟨rfl, length_le_append hsegment _, .push hstart hbody l b.depth,
      (List.append_nil _).symm, behind_after _ _⟩

theorem Follows.code_outside {run : Text} {here : Location} {blocks : List Block}
    (hp : Follows read call ⟨here, .outside run, blocks⟩) {c : Char} (hc : (code c).Fits rest)
    (h : t = read ++ c :: rest) :
    ∃ call', step t (inCall read call outcomes) = some (inCall (read ++ [c]) call' outcomes) ∧
      Follows (read ++ [c]) call' (Walk.next ⟨here, .outside run, blocks⟩ (code c)) := by
  obtain ⟨segment, found, body, reading⟩ := call
  obtain ⟨hreading, hsegment, hkeeps, rfl, rfl⟩ := hp
  have hlength : segment ≤ (read ++ [c]).length := length_le_append hsegment [c]
  cases hkeeps
  by_cases hopen : c = '{'
  · subst hopen
    refine ⟨_, step_outside_open hreading rfl h, hreading, hlength, ?_, (List.append_nil _).symm,
      behind_after read ['{']⟩
    exact .inside ⟨_, .behind read, [], 0⟩ _ (le_refl _) List.drop_length
  · have hdrop : (read ++ [c]).drop segment = read.drop segment ++ [c] :=
      List.drop_append_of_le_length hsegment
    have hkeeps : Keeps (read ++ [c]) segment none _ := .outside
    rw [hdrop, List.reverse_concat, List.takeWhile_cons] at hkeeps
    refine ⟨_, step_outside_code hreading rfl hc hopen h, hreading, hlength, ?_, ?_,
      behind_after read [c]⟩
    · simpa [Walk.next, Context.step, hopen] using hkeeps
    · simp [Walk.next]

theorem Follows.code_inside {b : OpenBlock} {here : Location} {blocks : List Block}
    (hp : Follows read call ⟨here, .inside b, blocks⟩) {c : Char} (hc : (code c).Fits rest)
    (h : t = read ++ c :: rest) :
    ∃ call', step t (inCall read call outcomes) = some (inCall (read ++ [c]) call' outcomes) ∧
      Follows (read ++ [c]) call' (Walk.next ⟨here, .inside b, blocks⟩ (code c)) := by
  obtain ⟨segment, found, body, reading⟩ := call
  obtain ⟨hreading, hsegment, hkeeps, rfl, rfl⟩ := hp
  have hlength : segment ≤ (read ++ [c]).length := length_le_append hsegment [c]
  obtain ⟨name, place, inner, depth⟩ := b
  rw [Walk.next, Context.step_inside]
  cases hkeeps with
  | inside _ start hstart hbody =>
    by_cases hopen : c = '{'
    · subst hopen
      exact ⟨_, step_inside_open hreading rfl h, hreading, hlength,
        .push hstart hbody (code '{') (depth + 1), (List.append_nil _).symm,
        behind_after read ['{']⟩
    · by_cases hclose : c = '}'
      · subst hclose
        cases depth with
        | zero =>
          refine ⟨_, step_inside_close hreading rfl rfl hstart h, hreading, le_refl _, .fresh _, ?_,
            behind_after read ['}']⟩
          rw [hbody]
          rfl
        | succ n =>
          exact ⟨_, step_inside_inner hreading rfl rfl h, hreading, hlength,
            .push hstart hbody (code '}') n, (List.append_nil _).symm, behind_after read ['}']⟩
      · have hlevel : levelBehind depth (code c) = some depth := by
          simp [levelBehind, hopen, hclose]
        rw [hlevel]
        exact ⟨_, step_inside_code hreading rfl hc hopen hclose h, hreading, hlength,
          .push hstart hbody (code c) depth, (List.append_nil _).symm, behind_after read [c]⟩

theorem Follows.lexeme {p : Walk} (hp : Follows read call p) {l : Lexeme} (hl : l.Fits rest)
    (hfault : l.fault? = none) (h : t = read ++ (l.text ++ rest)) :
    ∃ call', Reaches (step t) (inCall read call outcomes)
      (inCall (read ++ l.text) call' outcomes) ∧ Follows (read ++ l.text) call' (p.next l) := by
  by_cases hcode : ∀ c, l ≠ code c
  · exact hp.literal hl hfault hcode h
  · obtain ⟨c, hc⟩ := not_forall.mp hcode
    obtain rfl := not_not.mp hc
    obtain ⟨here, ctx, blocks⟩ := p
    cases ctx with
    | outside run =>
      obtain ⟨call', hstep, hp'⟩ := hp.code_outside hl h
      exact ⟨call', .single hstep, hp'⟩
    | inside b =>
      obtain ⟨call', hstep, hp'⟩ := hp.code_inside hl h
      exact ⟨call', .single hstep, hp'⟩

theorem Follows.finish {p : Walk} (hp : Follows read call p) (h : t = read ++ []) :
    step t (inCall read call outcomes) = some (between read (outcomes ++ [(p.resume []).1])) := by
  obtain ⟨here, ctx, blocks⟩ := p
  obtain ⟨segment, found, body, reading⟩ := call
  obtain ⟨hreading, -, hkeeps, rfl, -⟩ := hp
  cases hkeeps with
  | outside =>
    rw [step_outside_end hreading rfl h, Walk.resume_nil]
    simp [Context.finish, Except.map]
  | inside b start => exact step_inside_end hreading rfl h

/-- A call goes on as a scan of the remaining lexemes does, and the cursor ends where the scanner
does. -/
theorem Follows.exists_reaches {p : Walk} (hp : Follows read call p) {ls : List Lexeme}
    (hls : Cut rest ls) (h : t = read ++ rest) :
    ∃ more, rest = more ++ (p.resume ls).2.rest ∧
      Reaches (step t) (inCall read call outcomes)
        (between (read ++ more) (outcomes ++ [(p.resume ls).1])) := by
  induction hls generalizing read call p with
  | nil =>
    refine ⟨[], rfl, .single ?_⟩
    rw [List.append_nil]
    exact hp.finish h
  | @cons l rest ls hl hls ih =>
    cases hfault : l.fault? with
    | some f =>
      rw [Walk.resume_cons_of_fault _ hfault]
      refine ⟨l.text, congrArg (l.text ++ ·) hls.flatMap_text.symm, ?_⟩
      rw [hp.location]
      exact reaches_fault hl hfault hp.reading h
    | none =>
      obtain ⟨call', hlexeme, hp'⟩ := hp.lexeme hl hfault h
      obtain ⟨more, hmore, hreaches⟩ := ih hp' (by simpa using h)
      rw [Walk.resume_cons _ hfault]
      refine ⟨l.text ++ more, by rw [List.append_assoc, ← hmore], ?_⟩
      rw [← List.append_assoc]
      exact hlexeme.trans hreaches

/-! ### One call after another -/

theorem follows_start (read : Text) :
    Follows read .start
      ⟨.behind read, .outside (read.reverse.takeWhile Block.isNameChar), []⟩ where
  reading := rfl
  segment := Nat.zero_le _
  keeps := .outside
  found := rfl
  location := rfl

theorem exists_reaches_next {s : Scanner} (hs : Scanner.Rests t read s)
    (outcomes : List (Except ScanError (List Block))) :
    ∃ more, Scanner.Rests t (read ++ more) s.next ∧
      Reaches (step t) (between read outcomes)
        (between (read ++ more) (outcomes ++ [s.blocks.1])) := by
  have hlocation : s.location = .behind read := by
    rw [hs.location, Location.start_after]
  have hblocks : Walk.resume ⟨.behind read, .outside (read.reverse.takeWhile Block.isNameChar), []⟩
      s.lexemes = s.blocks := by
    rw [Walk.resume_fresh, ← hlocation]
    exact hs.blocksReaching_eq
  have hbegin : step t (between read outcomes) = some (inCall read .start outcomes) := rfl
  obtain ⟨more, hmore, hreaches⟩ := (follows_start read).exists_reaches hs.aligned hs.split
  rw [hblocks] at hmore hreaches
  obtain ⟨more', hnext⟩ := hs.next
  have hsame : more' = more := by
    have hsplit := hs.split.symm.trans hnext.split
    rw [hmore, List.append_assoc, List.append_cancel_left_eq] at hsplit
    exact (List.append_cancel_right hsplit).symm
  rw [hsame] at hnext
  exact ⟨more, hnext, reaches_of_step hbegin hreaches⟩

/-- The calls come to an end one after another, with the outcomes of the scanner. -/
theorem exists_reaches_repeated (t : Text) (n : Nat) :
    ∃ read, Scanner.Rests t read (Scanner.next^[n] (Scanner.ofText t)) ∧
      Reaches (step t) .start (between read ((Scanner.ofText t).repeated n)) := by
  induction n with
  | zero => exact ⟨[], Scanner.rests_ofText t, .refl⟩
  | succ n ih =>
    obtain ⟨read, hrests, hreaches⟩ := ih
    obtain ⟨more, hnext, hcall⟩ := exists_reaches_next hrests ((Scanner.ofText t).repeated n)
    rw [← Scanner.repeated_concat] at hcall
    rw [Function.iterate_succ_apply']
    exact ⟨read ++ more, hnext, hreaches.trans hcall⟩

end DatalogDoc.Stepping
