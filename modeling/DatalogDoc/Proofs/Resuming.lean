import DatalogDoc.Proofs.ScanFaults

/-!
# Several calls on one scanner

A call that fails leaves the scanner at the start of a line or at the end of the text, so the next
call finds what a scan of the remaining text alone would find.
-/

namespace DatalogDoc

open Lexeme

namespace Lexeme

theorem Fits.end_of_fault {l : Lexeme} {rest : Text} (h : l.Fits rest) {f : Fault}
    (hl : l.fault? = some f) : rest = [] ∨ l.text.getLast? = some '\n' := by
  cases l with
  | openComment u => exact .inl h.2
  | openString u =>
    obtain ⟨v, -, rfl | ⟨hrest, -⟩⟩ := h
    · exact .inr (by simp [text, List.getLast?_cons])
    · exact .inl hrest
  | _ => simp [fault?] at hl

end Lexeme

namespace Location

/-- The same column on a line further down. -/
def down (k : Nat) (here : Location) : Location := ⟨here.line + k, here.column⟩

theorem next_down (k : Nat) (here : Location) (c : Char) :
    (here.down k).next c = (here.next c).down k := by
  unfold next down
  split <;> simp [Nat.add_right_comm]

theorem after_down (k : Nat) (here : Location) (t : Text) :
    (here.down k).after t = (here.after t).down k := by
  induction t generalizing here with
  | nil => rfl
  | cons c t ih => rw [after_cons, next_down, ih, after_cons]

theorem start_after_lines {t : Text} (h : t = [] ∨ t.getLast? = some '\n') :
    start.after t = start.down (t.count '\n') := by
  rw [start_after]
  rcases h with rfl | h
  · rfl
  · obtain ⟨front, rfl⟩ := List.getLast?_eq_some_iff.mp h
    simp [behind, down, start]

end Location

def ScanError.down (k : Nat) (e : ScanError) : ScanError := ⟨e.fault, e.location.down k⟩

namespace Context

def down (k : Nat) : Context → Context
  | outside run => outside run
  | inside b => inside { b with location := b.location.down k }

theorem step_down (k : Nat) (here : Location) (ctx : Context) (l : Lexeme) :
    (ctx.down k).step (here.down k) l = ((ctx.step here l).1.down k, (ctx.step here l).2) := by
  cases ctx with
  | outside run =>
    by_cases ho : l = code '{'
    · subst ho
      rfl
    · cases l with
      | code c =>
        have hc : c ≠ '{' := fun h => ho (by rw [h])
        simp [down, step]
      | _ => rfl
  | inside b =>
    simp only [down, step_inside]
    cases levelBehind b.depth l <;> rfl

theorem finish_down (k : Nat) (ctx : Context) :
    (ctx.down k).finish = ctx.finish.mapError (ScanError.down k) := by
  cases ctx <;> rfl

end Context

namespace Scanner

theorem scan_down (k : Nat) (here : Location) (ctx : Context) (ls : List Lexeme) :
    (scan (here.down k) (ctx.down k) ls).1 =
      (scan here ctx ls).1.mapError (ScanError.down k) := by
  induction ls generalizing here ctx with
  | nil => exact ctx.finish_down k
  | cons l ls ih =>
    cases hl : l.fault? with
    | some fault => simp [scan, hl, Except.mapError, ScanError.down]
    | none =>
      simp only [scan, hl, Context.step_down, Location.after_down, ih]
      cases (scan (here.after l.text) (ctx.step here l).1 ls).1 <;> rfl

/-- The scanner after one more call. -/
def next (s : Scanner) : Scanner := s.blocks.2

theorem repeated_succ (s : Scanner) (n : Nat) :
    s.repeated (n + 1) = s.blocks.1 :: s.next.repeated n := rfl

theorem repeated_concat (s : Scanner) (n : Nat) :
    s.repeated (n + 1) = s.repeated n ++ [(next^[n] s).blocks.1] := by
  induction n generalizing s with
  | zero => rfl
  | succ n ih =>
    rw [repeated_succ, ih, repeated_succ, List.cons_append, Function.iterate_succ_apply]

theorem length_repeated (s : Scanner) (n : Nat) : (s.repeated n).length = n := by
  induction n generalizing s with
  | zero => rfl
  | succ n ih => rw [repeated_succ, List.length_cons, ih]

theorem take_repeated (s : Scanner) {m n : Nat} (h : m ≤ n) :
    (s.repeated n).take m = s.repeated m := by
  induction n generalizing s m with
  | zero =>
    obtain rfl := Nat.le_zero.mp h
    rfl
  | succ n ih =>
    cases m with
    | zero => rfl
    | succ m =>
      rw [repeated_succ, List.take_succ_cons, ih _ (Nat.le_of_succ_le_succ h), repeated_succ]

theorem repeated_getElem? {n k : Nat} (s : Scanner) (hk : k < n) :
    (s.repeated n)[k]? = some (next^[k] s).blocks.1 := by
  induction n generalizing s k with
  | zero => omega
  | succ n ih =>
    rw [repeated_succ]
    cases k with
    | zero => rfl
    | succ k => rw [List.getElem?_cons_succ, ih s.next (by omega), Function.iterate_succ_apply]

/-- The remaining lexemes are those of the remaining text. -/
def Aligned (s : Scanner) : Prop := Cut s.rest s.lexemes

theorem blocks_of_nil {s : Scanner} (h : s.lexemes = []) : s.blocks = (.ok [], s) := by
  obtain ⟨ls, here⟩ := s
  obtain rfl : ls = [] := h
  rfl

theorem next_of_nil {s : Scanner} (h : s.lexemes = []) : s.next = s := by
  rw [next, blocks_of_nil h]

theorem iterate_next_of_nil {s : Scanner} (h : s.lexemes = []) (n : Nat) : next^[n] s = s :=
  Function.iterate_fixed (next_of_nil h) n

theorem repeated_of_nil {s : Scanner} (h : s.lexemes = []) (n : Nat) :
    s.repeated n = List.replicate n (.ok []) := by
  induction n with
  | zero => rfl
  | succ n ih => rw [repeated_succ, next_of_nil h, ih, blocks_of_nil h, List.replicate_succ]

theorem blocks_of_fault {s : Scanner} {pre post : List Lexeme} {l : Lexeme} {f : Fault}
    (h : s.lexemes = pre ++ l :: post) (hpre : ∀ k ∈ pre, k.fault? = none) (hl : l.fault? = some f) :
    s.blocks = (.error ⟨f, s.location.after (pre.flatMap text)⟩,
      ⟨post, s.location.after (pre.flatMap text ++ l.text)⟩) := by
  rw [blocks, ← Walk.resume_fresh, h, Walk.resume_append _ hpre, Walk.resume_cons_of_fault _ hl,
    Walk.foldl_location, Location.after_append]

theorem next_of_faultless {s : Scanner} (h : ∀ l ∈ s.lexemes, l.fault? = none) :
    s.next = ⟨[], s.location.after s.rest⟩ := by
  rw [next, blocks, ← Walk.resume_fresh, ← List.append_nil s.lexemes, Walk.resume_append _ h,
    Walk.resume_nil, Walk.foldl_location, rest]

theorem next_of_aligned {s : Scanner} (h : s.Aligned) :
    ∃ read, s.rest = read ++ s.next.rest ∧ s.next.Aligned ∧
      s.next.location = s.location.after read ∧
      (s.next.lexemes = [] ∨ read.getLast? = some '\n' ∧ ∃ e, s.blocks.1 = .error e) := by
  rcases Block.fault_or_faultless s.lexemes with ⟨pre, l, post, f, hls, hpre, hl⟩ | hfree
  · have hblocks := blocks_of_fault hls hpre hl
    have hnext : s.next = ⟨post, s.location.after (pre.flatMap text ++ l.text)⟩ := by
      rw [next, hblocks]
    obtain ⟨hfits, hcut⟩ := (hls ▸ h : Cut s.rest (pre ++ l :: post)).of_append.of_cons
    rw [hnext]
    refine ⟨pre.flatMap text ++ l.text, by simp [rest, hls], hcut, rfl, ?_⟩
    rcases hfits.end_of_fault hl with hpost | hline
    · exact .inl (cut_nil_iff.mp (hpost ▸ hcut))
    · exact .inr ⟨by simp [List.getLast?_append, hline], _, by rw [hblocks]⟩
  · rw [next_of_faultless hfree]
    exact ⟨s.rest, by simp [rest], .nil, rfl, .inl rfl⟩

/-- The scanner stands behind what it has read of a text, at the end of the text or at the start of
a line. -/
structure Rests (t read : Text) (s : Scanner) : Prop where
  split : t = read ++ s.rest
  aligned : s.Aligned
  location : s.location = Location.start.after read
  fresh : s.lexemes = [] ∨ read = [] ∨ read.getLast? = some '\n'

@[simp] theorem rest_ofText (t : Text) : (ofText t).rest = t := flatMap_text_lexemes t

theorem rests_ofText (t : Text) : Rests t [] (ofText t) where
  split := (rest_ofText t).symm
  aligned := by
    rw [Aligned, rest_ofText]
    exact cut_lexemes t
  location := rfl
  fresh := .inr (.inl rfl)

theorem Rests.next {t read : Text} {s : Scanner} (h : Rests t read s) :
    ∃ more, Rests t (read ++ more) s.next := by
  obtain ⟨more, hrest, haligned, hlocation, hend⟩ := next_of_aligned h.aligned
  refine ⟨more, ?_, haligned, ?_, ?_⟩
  · rw [h.split, hrest, List.append_assoc]
  · rw [hlocation, h.location, Location.after_append]
  · rcases hend with hnil | ⟨hline, -⟩
    · exact .inl hnil
    · exact .inr (.inr (by simp [List.getLast?_append, hline]))

theorem exists_rests (t : Text) (n : Nat) : ∃ read, Rests t read (next^[n] (ofText t)) := by
  induction n with
  | zero => exact ⟨[], rests_ofText t⟩
  | succ n ih =>
    obtain ⟨read, h⟩ := ih
    obtain ⟨more, hmore⟩ := h.next
    rw [Function.iterate_succ_apply']
    exact ⟨read ++ more, hmore⟩

theorem Rests.location_eq {t read : Text} {s : Scanner} (h : Rests t read s) (hs : s.lexemes ≠ []) :
    s.location = Location.start.down (s.location.line - 1) := by
  rw [h.location]
  rcases h.fresh with hnil | hlines
  · exact (hs hnil).elim
  · rw [Location.start_after_lines hlines]
    simp [Location.down, Location.start]

theorem Rests.blocks_eq {t read : Text} {s : Scanner} (h : Rests t read s) :
    s.blocks.1 = (Block.balanced s.rest).mapError (ScanError.down (s.location.line - 1)) := by
  have hlexemes : Lexeme.lexemes s.rest = s.lexemes := (cut_iff.mp h.aligned).symm
  rw [Block.balanced, ofText, hlexemes]
  by_cases hs : s.lexemes = []
  · rw [blocks_of_nil hs, hs]
    rfl
  · have hdown := scan_down (s.location.line - 1) .start (.outside []) s.lexemes
    rw [← h.location_eq hs] at hdown
    exact hdown

/-- A call in which a name may reach back to the start of the whole text, over what earlier calls
have read. -/
def blocksReaching (read : Text) (s : Scanner) : Except ScanError (List Block) × Scanner :=
  scan s.location (.outside (read.reverse.takeWhile Block.isNameChar)) s.lexemes

theorem Rests.blocksReaching_eq {t read : Text} {s : Scanner} (h : Rests t read s) :
    s.blocksReaching read = s.blocks := by
  rw [blocksReaching, blocks]
  rcases h.fresh with hnil | hlines
  · rw [hnil]
    rfl
  · rw [Block.takeWhile_reverse_of_lines hlines]

theorem Rests.next_of_ok {t read : Text} {s : Scanner} (h : Rests t read s) {bs : List Block}
    (hok : s.blocks.1 = .ok bs) : s.next.lexemes = [] := by
  obtain ⟨-, -, -, -, hnil | ⟨-, e, herror⟩⟩ := next_of_aligned h.aligned
  · exact hnil
  · simp [hok] at herror

theorem countP_repeated_le {s : Scanner} (h : s.Aligned) (n : Nat) :
    (s.repeated n).countP (fun outcome => !outcome.isOk) ≤ s.rest.count '\n' + 1 := by
  -- A call that fails before the end of the text uses up a newline.
  induction n generalizing s with
  | zero => simp [repeated]
  | succ n ih =>
    obtain ⟨read, hrest, haligned, -, hend⟩ := next_of_aligned h
    have hone : (if !s.blocks.1.isOk then 1 else 0) ≤ 1 := by split <;> simp
    rw [repeated_succ, List.countP_cons]
    rcases hend with hnil | ⟨hline, -⟩
    · have hnone : (s.next.repeated n).countP (fun outcome => !outcome.isOk) = 0 := by
        simp [repeated_of_nil hnil, Except.isOk, Except.toBool]
      omega
    · obtain ⟨front, rfl⟩ := List.getLast?_eq_some_iff.mp hline
      have hcount := congrArg (List.count '\n') hrest
      simp only [List.count_append, List.count_singleton_self] at hcount
      have hmore := ih haligned
      omega

/-- Each call on one scanner finds what a scan of the remaining text finds, with its lines counted
from there, and no name reaches back over what was read before. A call that succeeds is the last one
to find anything, and only one call more can fail than there are newlines. -/
theorem repeated_resumes (t : Text) (n : Nat) :
    (∀ k < n, ∃ read s, s = next^[k] (ofText t) ∧ t = read ++ s.rest ∧
        s.location = Location.behind read ∧
        ((ofText t).repeated n)[k]? =
          some ((Block.balanced s.rest).mapError (ScanError.down (s.location.line - 1))) ∧
        s.blocksReaching read = s.blocks) ∧
      (∀ j k bs, j < k → k < n → ((ofText t).repeated n)[j]? = some (.ok bs) →
        ((ofText t).repeated n)[k]? = some (.ok [])) ∧
      ((ofText t).repeated n).countP (fun outcome => !outcome.isOk) ≤ t.count '\n' + 1 := by
  refine ⟨?_, ?_, ?_⟩
  · intro k hk
    obtain ⟨read, h⟩ := exists_rests t k
    refine ⟨read, _, rfl, h.split, ?_, ?_, h.blocksReaching_eq⟩
    · rw [h.location, Location.start_after]
    · rw [repeated_getElem? _ hk, h.blocks_eq]
  · intro j k bs hjk hk hj
    obtain ⟨read, h⟩ := exists_rests t j
    rw [repeated_getElem? _ (Nat.lt_trans hjk hk), Option.some.injEq] at hj
    have hnil := h.next_of_ok hj
    obtain ⟨m, rfl⟩ := Nat.exists_eq_add_of_lt hjk
    have hlater : next^[j + m + 1] (ofText t) = (next^[j] (ofText t)).next := by
      have hsum : j + m + 1 = m + (j + 1) := by omega
      rw [hsum, Function.iterate_add_apply, Function.iterate_succ_apply', iterate_next_of_nil hnil]
    rw [repeated_getElem? _ hk, hlater, blocks_of_nil hnil]
  · have hcount := countP_repeated_le (rests_ofText t).aligned n
    rwa [rest_ofText] at hcount

/-- Three calls fail, two of them inside blocks, and names are read afresh behind each. -/
example :
    (ofText "A \x7b\"x\n B \x7b \x7by\x7d \"z\nC \x7bw\x7d /* \x7b".toList).repeated 4 =
      [.error ⟨.openString, ⟨1, 4⟩⟩, .error ⟨.openString, ⟨2, 10⟩⟩, .error ⟨.openComment, ⟨3, 7⟩⟩,
        .ok []] := by
  cbv

end Scanner

end DatalogDoc
