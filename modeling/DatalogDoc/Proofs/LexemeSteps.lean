import DatalogDoc.Proofs.Stepping

/-!
# Comments and strings, one character at a time

From its first character on, a comment or string is read up to its end, and the call goes back to
code. One without its end fails the call.
-/

namespace DatalogDoc.Stepping

open Lexeme StateTransition

variable {t read rest u : Text} {place : Location} {call : Call}
  {outcomes : List (Except ScanError (List Block))}

/-- In a call, with this much of the text read. -/
abbrev inCall (read : Text) (call : Call) (outcomes : List (Except ScanError (List Block))) :
    State := ⟨.behind read, some call, outcomes⟩

/-- Between two calls, with this much of the text read. -/
abbrev between (read : Text) (outcomes : List (Except ScanError (List Block))) : State :=
  ⟨.behind read, none, outcomes⟩

theorem reaches_of_step {s s' s'' : State} (h : step t s = some s')
    (hmore : Reaches (step t) s' s'') : Reaches (step t) s s'' := .head h hmore

theorem step_literal {here : Cursor} {reading : Reading} (hcall : call.reading = .code)
    (h : literal? t here = some reading) :
    step t ⟨here, some call, outcomes⟩ =
      some ⟨here.advance t, some (call.switch reading), outcomes⟩ := by
  cases hbody : call.body with
  | none => simp [step, hcall, hbody, stepOutside, h, State.proceed]
  | some b => simp [step, hcall, hbody, stepInside, h, State.proceed]

/-! ### Comments -/

theorem literal?_slash {c : Char} (hc : c = '*' ∨ c = '/') (h : t = read ++ '/' :: c :: rest) :
    literal? t (.behind read) = some (.slash (.behind read)) := by
  have hpeek : (Cursor.behind read).peek t = some '/' := Cursor.peek_behind h
  have hnext : (Cursor.behind read).peekNext t = some c := Cursor.peekNext_behind h
  rw [literal?, hpeek, hnext]
  rcases hc with rfl | rfl <;> rfl

theorem reaches_slash (hcall : call.reading = .code) {c : Char} (hc : c = '*' ∨ c = '/')
    (h : t = read ++ '/' :: c :: rest) :
    Reaches (step t) (inCall read call outcomes)
      (inCall (read ++ ['/', c])
        (call.switch (if c = '/' then .lineComment else .blockComment (.behind read)))
        outcomes) := by
  have hsplit : t = read ++ ['/'] ++ c :: rest := by simpa using h
  have hread : read ++ ['/', c] = read ++ ['/'] ++ [c] := by simp
  refine reaches_of_step (step_literal hcall (literal?_slash hc h)) ?_
  rw [Cursor.advance_behind h, hread]
  refine .single ?_
  simp only [step, Call.switch, State.proceed, Cursor.peek_behind hsplit,
    Cursor.advance_behind hsplit, List.head?_cons, Option.some.injEq, Option.mem_def]

theorem step_lineComment {c : Char} (h : t = read ++ c :: rest) :
    step t (inCall read (call.switch .lineComment) outcomes) =
      some (inCall (read ++ [c])
        (if c = '\n' then call.resume (.behind (read ++ [c])) else call.switch .lineComment)
        outcomes) := by
  have hpeek : (Cursor.behind read).peek t = some c := Cursor.peek_behind h
  simp only [step, Call.switch, hpeek, Cursor.advance_behind h, State.proceed]
  split
  · simp_all
  · simp_all [Call.resume]
  · simp_all

theorem step_lineComment_end (h : t = read ++ []) :
    step t (inCall read (call.switch .lineComment) outcomes) =
      some (inCall read (call.resume (.behind read)) outcomes) := by
  have hpeek : (Cursor.behind read).peek t = none := Cursor.peek_behind h
  simp only [step, Call.switch, hpeek, Cursor.advance_of_peek_none hpeek, State.proceed]
  rfl

theorem reaches_lineComment (hu : '\n' ∉ u) (h : t = read ++ (u ++ rest)) :
    Reaches (step t) (inCall read (call.switch .lineComment) outcomes)
      (inCall (read ++ u) (call.switch .lineComment) outcomes) := by
  induction u generalizing read with
  | nil =>
    rw [List.append_nil]
    exact .refl
  | cons c u ih =>
    have hsplit : t = read ++ [c] ++ (u ++ rest) := by simpa using h
    have hread : read ++ c :: u = read ++ [c] ++ u := by simp
    obtain ⟨hc, hu⟩ := not_or.mp (List.mem_cons.not.mp hu)
    refine reaches_of_step (step_lineComment h) ?_
    rw [if_neg (Ne.symm hc), hread]
    exact ih hu hsplit

theorem step_blockComment {c : Char} (hc : c = '*' → rest.head? ≠ some '/')
    (h : t = read ++ c :: rest) :
    step t (inCall read (call.switch (.blockComment place)) outcomes) =
      some (inCall (read ++ [c]) (call.switch (.blockComment place)) outcomes) := by
  have hpeek : (Cursor.behind read).peek t = some c := Cursor.peek_behind h
  have hnext : (Cursor.behind read).peekNext t = rest.head? := Cursor.peekNext_behind h
  have hopen : ¬ (c = '*' ∧ rest.head? = some '/') := fun hclose => hc hclose.1 hclose.2
  simp only [step, Call.switch, hpeek, hnext, Cursor.advance_behind h, State.proceed, if_neg hopen]

theorem step_blockComment_end (h : t = read ++ []) :
    step t (inCall read (call.switch (.blockComment place)) outcomes) =
      some (between read (outcomes ++ [.error ⟨.openComment, place⟩])) := by
  have hpeek : (Cursor.behind read).peek t = none := Cursor.peek_behind h
  simp only [step, Call.switch, hpeek, State.finish]

theorem reaches_blockComment (hu : ¬ ['*', '/'] <:+: u) (hrest : rest.head? ≠ some '/')
    (h : t = read ++ (u ++ rest)) :
    Reaches (step t) (inCall read (call.switch (.blockComment place)) outcomes)
      (inCall (read ++ u) (call.switch (.blockComment place)) outcomes) := by
  induction u generalizing read with
  | nil =>
    rw [List.append_nil]
    exact .refl
  | cons c u ih =>
    have hsplit : t = read ++ [c] ++ (u ++ rest) := by simpa using h
    have hread : read ++ c :: u = read ++ [c] ++ u := by simp
    have hopen : c = '*' → (u ++ rest).head? ≠ some '/' := by
      rintro rfl hslash
      cases u with
      | nil => exact hrest hslash
      | cons d u =>
        obtain rfl : d = '/' := Option.some.inj hslash
        exact hu ⟨[], u, rfl⟩
    refine reaches_of_step (step_blockComment hopen h) ?_
    rw [hread]
    exact ih (fun hinfix => hu (List.infix_cons hinfix)) hsplit

theorem reaches_closer (h : t = read ++ '*' :: '/' :: rest) :
    Reaches (step t) (inCall read (call.switch (.blockComment place)) outcomes)
      (inCall (read ++ ['*', '/']) (call.resume (.behind (read ++ ['*', '/']))) outcomes) := by
  have hsplit : t = read ++ ['*'] ++ '/' :: rest := by simpa using h
  have hread : read ++ ['*', '/'] = read ++ ['*'] ++ ['/'] := by simp
  have hpeek : (Cursor.behind read).peek t = some '*' := Cursor.peek_behind h
  have hnext : (Cursor.behind read).peekNext t = some '/' := Cursor.peekNext_behind h
  have hstar : step t (inCall read (call.switch (.blockComment place)) outcomes) =
      some (inCall (read ++ ['*']) (call.switch .star) outcomes) := by
    simp only [step, Call.switch, hpeek, hnext, Cursor.advance_behind h, State.proceed]
    rfl
  have hslash : step t (inCall (read ++ ['*']) (call.switch .star) outcomes) =
      some (inCall (read ++ ['*'] ++ ['/'])
        (call.resume (.behind (read ++ ['*'] ++ ['/']))) outcomes) := by
    simp only [step, Call.switch, Cursor.advance_behind hsplit, State.proceed]
    rfl
  rw [hread]
  exact reaches_of_step hstar (.single hslash)

theorem reaches_blockComment_text (hcall : call.reading = .code) (hu : ¬ ['*', '/'] <:+: u)
    (h : t = read ++ ((blockComment u).text ++ rest)) :
    Reaches (step t) (inCall read call outcomes)
      (inCall (read ++ (blockComment u).text)
        (call.resume (.behind (read ++ (blockComment u).text))) outcomes) := by
  have hopener : t = read ++ '/' :: '*' :: (u ++ '*' :: '/' :: rest) := by simpa [text] using h
  have hinterior : t = read ++ ['/', '*'] ++ (u ++ '*' :: '/' :: rest) := by simpa using hopener
  have hcloser : t = read ++ ['/', '*'] ++ u ++ '*' :: '/' :: rest := by simpa using hopener
  have hread : read ++ (blockComment u).text = read ++ ['/', '*'] ++ u ++ ['*', '/'] := by
    simp [text]
  rw [hread]
  refine (reaches_slash hcall (.inl rfl) hopener).trans ?_
  exact (reaches_blockComment hu (by simp) hinterior).trans (reaches_closer hcloser)

theorem reaches_openComment_text (hcall : call.reading = .code) (hu : ¬ ['*', '/'] <:+: u)
    (h : t = read ++ ((openComment u).text ++ [])) :
    Reaches (step t) (inCall read call outcomes)
      (between (read ++ (openComment u).text)
        (outcomes ++ [.error ⟨.openComment, .behind read⟩])) := by
  have hopener : t = read ++ '/' :: '*' :: (u ++ []) := by simpa [text] using h
  have hinterior : t = read ++ ['/', '*'] ++ (u ++ []) := by simpa using hopener
  have hend : t = read ++ ['/', '*'] ++ u ++ [] := by simpa using hopener
  have hread : read ++ (openComment u).text = read ++ ['/', '*'] ++ u := by
    simp [text]
  rw [hread]
  refine (reaches_slash hcall (.inl rfl) hopener).trans ?_
  exact (reaches_blockComment hu (by simp) hinterior).tail (step_blockComment_end hend)

theorem reaches_lineComment_text (hcall : call.reading = .code) {ended : Bool}
    (hl : (lineComment u ended).Fits rest)
    (h : t = read ++ ((lineComment u ended).text ++ rest)) :
    Reaches (step t) (inCall read call outcomes)
      (inCall (read ++ (lineComment u ended).text)
        (call.resume (.behind (read ++ (lineComment u ended).text))) outcomes) := by
  cases ended with
  | true =>
    have hopener : t = read ++ '/' :: '/' :: (u ++ '\n' :: rest) := by simpa [text] using h
    have hinterior : t = read ++ ['/', '/'] ++ (u ++ '\n' :: rest) := by simpa using hopener
    have hnewline : t = read ++ ['/', '/'] ++ u ++ '\n' :: rest := by simpa using hopener
    have hread : read ++ (lineComment u true).text = read ++ ['/', '/'] ++ u ++ ['\n'] := by
      simp [text]
    rw [hread]
    refine (reaches_slash hcall (.inr rfl) hopener).trans ?_
    exact (reaches_lineComment hl hinterior).tail (step_lineComment hnewline)
  | false =>
    obtain ⟨hu, rfl⟩ := hl
    have hopener : t = read ++ '/' :: '/' :: (u ++ []) := by simpa [text] using h
    have hinterior : t = read ++ ['/', '/'] ++ (u ++ []) := by simpa using hopener
    have hend : t = read ++ ['/', '/'] ++ u ++ [] := by simpa using hopener
    have hread : read ++ (lineComment u false).text = read ++ ['/', '/'] ++ u := by
      simp [text]
    rw [hread]
    refine (reaches_slash hcall (.inr rfl) hopener).trans ?_
    exact (reaches_lineComment hu hinterior).tail (step_lineComment_end hend)

/-! ### Strings -/

theorem step_openingQuote (hcall : call.reading = .code) (h : t = read ++ '"' :: rest) :
    step t (inCall read call outcomes) =
      some (inCall (read ++ ['"']) (call.switch (.quoted (.behind read))) outcomes) := by
  have hpeek : (Cursor.behind read).peek t = some '"' := Cursor.peek_behind h
  have hliteral : literal? t (.behind read) = some (.quoted (.behind read)) := by
    rw [literal?, hpeek]
    rfl
  rw [step_literal hcall hliteral, Cursor.advance_behind h]

theorem step_quoted {c : Char} (hquote : c ≠ '"') (hline : c ≠ '\n') (hback : c ≠ '\\')
    (h : t = read ++ c :: rest) :
    step t (inCall read (call.switch (.quoted place)) outcomes) =
      some (inCall (read ++ [c]) (call.switch (.quoted place)) outcomes) := by
  have hpeek : (Cursor.behind read).peek t = some c := Cursor.peek_behind h
  simp only [step, Call.switch, hpeek, Cursor.advance_behind h, State.proceed]

theorem step_closingQuote (h : t = read ++ '"' :: rest) :
    step t (inCall read (call.switch (.quoted place)) outcomes) =
      some (inCall (read ++ ['"']) (call.resume (.behind (read ++ ['"']))) outcomes) := by
  have hpeek : (Cursor.behind read).peek t = some '"' := Cursor.peek_behind h
  simp only [step, Call.switch, hpeek, Cursor.advance_behind h, State.proceed]
  rfl

theorem step_newline (h : t = read ++ '\n' :: rest) :
    step t (inCall read (call.switch (.quoted place)) outcomes) =
      some (between (read ++ ['\n']) (outcomes ++ [.error ⟨.openString, place⟩])) := by
  have hpeek : (Cursor.behind read).peek t = some '\n' := Cursor.peek_behind h
  simp only [step, Call.switch, hpeek, Cursor.advance_behind h, State.finish]

theorem step_quoted_end (h : t = read ++ []) :
    step t (inCall read (call.switch (.quoted place)) outcomes) =
      some (between read (outcomes ++ [.error ⟨.openString, place⟩])) := by
  have hpeek : (Cursor.behind read).peek t = none := Cursor.peek_behind h
  simp only [step, Call.switch, hpeek, Cursor.advance_of_peek_none hpeek, State.finish]

theorem step_escape (h : t = read ++ '\\' :: rest) :
    step t (inCall read (call.switch (.quoted place)) outcomes) =
      some (inCall (read ++ ['\\']) (call.switch (.backslash place)) outcomes) := by
  have hpeek : (Cursor.behind read).peek t = some '\\' := Cursor.peek_behind h
  simp only [step, Call.switch, hpeek, Cursor.advance_behind h, State.proceed]

theorem step_backslash {c : Char} (h : t = read ++ c :: rest) :
    step t (inCall read (call.switch (.backslash place)) outcomes) =
      some (inCall (read ++ [c]) (call.switch (.quoted place)) outcomes) := by
  simp only [step, Call.switch, Cursor.advance_behind h, State.proceed]

theorem step_backslash_end (h : t = read ++ []) :
    step t (inCall read (call.switch (.backslash place)) outcomes) =
      some (inCall read (call.switch (.quoted place)) outcomes) := by
  have hpeek : (Cursor.behind read).peek t = none := Cursor.peek_behind h
  simp only [step, Call.switch, Cursor.advance_of_peek_none hpeek, State.proceed]

theorem reaches_quoted (hu : Escaped u) (h : t = read ++ (u ++ rest)) :
    Reaches (step t) (inCall read (call.switch (.quoted place)) outcomes)
      (inCall (read ++ u) (call.switch (.quoted place)) outcomes) := by
  induction hu generalizing read with
  | nil =>
    rw [List.append_nil]
    exact .refl
  | @plain c u hquote hline hback _ ih =>
    have hsplit : t = read ++ [c] ++ (u ++ rest) := by simpa using h
    have hread : read ++ c :: u = read ++ [c] ++ u := by simp
    refine reaches_of_step (step_quoted hquote hline hback h) ?_
    rw [hread]
    exact ih hsplit
  | @pair c u _ ih =>
    have hback : t = read ++ ['\\'] ++ c :: (u ++ rest) := by simpa using h
    have hsplit : t = read ++ ['\\'] ++ [c] ++ (u ++ rest) := by simpa using h
    have hread : read ++ '\\' :: c :: u = read ++ ['\\'] ++ [c] ++ u := by simp
    refine reaches_of_step (step_escape h) ?_
    refine reaches_of_step (step_backslash hback) ?_
    rw [hread]
    exact ih hsplit

theorem reaches_string (hcall : call.reading = .code) (hu : Escaped u)
    (h : t = read ++ '"' :: (u ++ rest)) :
    Reaches (step t) (inCall read call outcomes)
      (inCall (read ++ ['"'] ++ u) (call.switch (.quoted (.behind read))) outcomes) := by
  have hinterior : t = read ++ ['"'] ++ (u ++ rest) := by simpa using h
  exact reaches_of_step (step_openingQuote hcall h) (reaches_quoted hu hinterior)

theorem reaches_quoted_text (hcall : call.reading = .code) (hu : Escaped u)
    (h : t = read ++ ((quoted u).text ++ rest)) :
    Reaches (step t) (inCall read call outcomes)
      (inCall (read ++ (quoted u).text) (call.resume (.behind (read ++ (quoted u).text)))
        outcomes) := by
  have hopening : t = read ++ '"' :: (u ++ '"' :: rest) := by simpa [text] using h
  have hclosing : t = read ++ ['"'] ++ u ++ '"' :: rest := by simpa using hopening
  have hread : read ++ (quoted u).text = read ++ ['"'] ++ u ++ ['"'] := by simp [text]
  rw [hread]
  exact (reaches_string hcall hu hopening).tail (step_closingQuote hclosing)

theorem reaches_openString_text (hcall : call.reading = .code) (hl : (openString u).Fits rest)
    (h : t = read ++ ((openString u).text ++ rest)) :
    Reaches (step t) (inCall read call outcomes)
      (between (read ++ (openString u).text)
        (outcomes ++ [.error ⟨.openString, .behind read⟩])) := by
  obtain ⟨v, hv, rfl | ⟨rfl, rfl | rfl⟩⟩ := hl
  · have hopening : t = read ++ '"' :: (v ++ '\n' :: rest) := by simpa [text] using h
    have hnewline : t = read ++ ['"'] ++ v ++ '\n' :: rest := by simpa using hopening
    have hread : read ++ (openString (v ++ ['\n'])).text = read ++ ['"'] ++ v ++ ['\n'] := by
      simp [text]
    rw [hread]
    exact (reaches_string hcall hv hopening).tail (step_newline hnewline)
  · have hopening : t = read ++ '"' :: (u ++ []) := by simpa [text] using h
    have hend : t = read ++ ['"'] ++ u ++ [] := by simpa using hopening
    have hread : read ++ (openString u).text = read ++ ['"'] ++ u := by simp [text]
    rw [hread]
    exact (reaches_string hcall hv hopening).tail (step_quoted_end hend)
  · -- The backslash takes no character with it, and the string is still open.
    have hopening : t = read ++ '"' :: (v ++ ['\\']) := by simpa [text] using h
    have hback : t = read ++ ['"'] ++ v ++ ['\\'] := by simpa using hopening
    have hend : t = read ++ ['"'] ++ v ++ ['\\'] ++ [] := by simpa using hopening
    have hread : read ++ (openString (v ++ ['\\'])).text = read ++ ['"'] ++ v ++ ['\\'] := by
      simp [text]
    rw [hread]
    refine (reaches_string hcall hv hopening).trans ?_
    refine reaches_of_step (step_escape hback) ?_
    exact reaches_of_step (step_backslash_end hend) (.single (step_quoted_end hend))

/-! ### Both -/

/-- A lexeme with its end that is no character of code. -/
theorem reaches_literal {l : Lexeme} (hl : l.Fits rest) (hfault : l.fault? = none)
    (hcode : ∀ c, l ≠ code c) (hcall : call.reading = .code) (h : t = read ++ (l.text ++ rest)) :
    Reaches (step t) (inCall read call outcomes)
      (inCall (read ++ l.text) (call.resume (.behind (read ++ l.text))) outcomes) := by
  cases l with
  | blockComment u => exact reaches_blockComment_text hcall hl h
  | lineComment u ended => exact reaches_lineComment_text hcall hl h
  | quoted u => exact reaches_quoted_text hcall hl h
  | code c => exact (hcode c rfl).elim
  | openComment u => simp [fault?] at hfault
  | openString u => simp [fault?] at hfault

/-- A lexeme without its end is a fault of its first character. -/
theorem reaches_fault {l : Lexeme} {f : Fault} (hl : l.Fits rest) (hfault : l.fault? = some f)
    (hcall : call.reading = .code) (h : t = read ++ (l.text ++ rest)) :
    Reaches (step t) (inCall read call outcomes)
      (between (read ++ l.text) (outcomes ++ [.error ⟨f, .behind read⟩])) := by
  cases l with
  | openComment u =>
    obtain rfl : Fault.openComment = f := Option.some.inj hfault
    obtain ⟨hu, rfl⟩ := hl
    exact reaches_openComment_text hcall hu h
  | openString u =>
    obtain rfl : Fault.openString = f := Option.some.inj hfault
    exact reaches_openString_text hcall hl h
  | _ => simp [fault?] at hfault

end DatalogDoc.Stepping
