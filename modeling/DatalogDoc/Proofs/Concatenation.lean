import DatalogDoc.Proofs.LazySearch
import DatalogDoc.Proofs.Outline
import DatalogDoc.Proofs.Resuming
import DatalogDoc.Proofs.Seams
import DatalogDoc.Proofs.Truncation
import DatalogDoc.Reference
import Mathlib

/-!
# Texts one behind the other

A scan of whole lines goes on with the text behind them as a scan of that text alone does. Whatever
a text ends with, more text leaves the blocks that it already has as they are, in either mode.
-/

namespace DatalogDoc

namespace Lexeme

theorem Fits.of_newline {l : Lexeme} {rest : Text} (h : l.Fits rest) (hl : l.fault? = none)
    (hline : l.text.getLast? = some '\n') (s : Text) : l.Fits s := by
  cases l with
  | blockComment u => exact h
  | lineComment u ended =>
    cases ended with
    | true => exact h
    | false =>
      have hmem : '\n' ∈ u := by simpa [text] using List.mem_of_getLast? hline
      exact (h.1 hmem).elim
  | quoted u => exact h
  | code c =>
    obtain rfl : c = '\n' := by simpa [text] using hline
    exact ⟨by decide, by simp⟩
  | openComment u => simp [fault?] at hl
  | openString u => simp [fault?] at hl

theorem Cut.append_of_lines {t s : Text} {ls ks : List Lexeme} (h : Cut t ls)
    (hfree : ∀ l ∈ ls, l.fault? = none) (hlines : t = [] ∨ t.getLast? = some '\n') (hs : Cut s ks) :
    Cut (t ++ s) (ls ++ ks) := by
  apply h.append hs
  intro l hl
  obtain ⟨front, rfl⟩ := List.getLast?_eq_some_iff.mp hl
  have ht : t = front.flatMap text ++ l.text := by
    rw [← h.flatMap_text]
    simp
  have hlast : l.text.getLast? = some '\n' := by
    rcases hlines with hnil | hline
    · simp [hnil, text_ne_nil] at ht
    · rwa [ht, List.getLast?_append_of_ne_nil _ l.text_ne_nil] at hline
  exact h.of_append.of_cons.1.of_newline (hfree l (by simp)) hlast s

theorem Cut.ended_of_lines {t : Text} {ls : List Lexeme} (h : Cut t ls)
    (hfree : ∀ l ∈ ls, l.fault? = none) (hlines : t = [] ∨ t.getLast? = some '\n') : Ended ls :=
  ended_of_cut (h.append_of_lines hfree hlines (cut_code (t := ['\n']) (by simp) .nil))

end Lexeme

namespace Walk

open Lexeme Context

theorem behind_of_lines {t : Text} {bs : List Block} (h : Block.balanced t = .ok bs)
    (hlines : t = [] ∨ t.getLast? = some '\n') :
    behind (lexemes t) = ⟨Location.start.down (t.count '\n'), outside [], bs⟩ := by
  obtain ⟨hfree, houtline⟩ := Block.balanced_eq_ok_iff.mp h
  obtain ⟨run, hbehind⟩ := houtline.behind hfree
  have hreached := behind_reached (passable_of_cut (cut_lexemes t) hfree)
  rw [hbehind] at hreached ⊢
  have hrun := hreached.2 ((cut_lexemes t).ended_of_lines hfree hlines)
  rw [flatMap_text_lexemes, Block.takeWhile_reverse_of_lines hlines] at hrun
  rw [hrun, Location.start_after_lines hlines]

theorem prefix_of_resume {p : Walk} {ls : List Lexeme} {bs : List Block}
    (h : (p.resume ls).1 = .ok bs) : p.blocks <+: bs := by
  simp only [resume] at h
  cases hscan : (Scanner.scan p.location p.context ls).1 with
  | error e => simp [hscan, Except.map] at h
  | ok cs =>
    simp only [hscan, Except.map, Except.ok.injEq] at h
    exact ⟨cs, h⟩

end Walk

theorem Context.step_found_of_ne (here : Location) (ctx : Context) {l : Lexeme}
    (hl : l ≠ .code '}') : (ctx.step here l).2 = none := by
  cases ctx with
  | outside run => exact step_outside_found here run l
  | inside b =>
    rw [step_inside]
    cases hn : Lexeme.levelBehind b.depth l with
    | none => exact (hl (Lexeme.levelBehind_eq_none_iff.mp hn).1).elim
    | some n => rfl

namespace Block

open Lexeme

/-- Behind whole lines a text is scanned as it is alone, with its lines counted on. -/
theorem balanced_append {t₁ : Text} {bs : List Block} (h : balanced t₁ = .ok bs)
    (hlines : t₁ = [] ∨ t₁.getLast? = some '\n') (t₂ : Text) :
    balanced (t₁ ++ t₂) =
      match balanced t₂ with
      | .ok cs => .ok (bs ++ cs)
      | .error e => .error ⟨e.fault, ⟨e.location.line + t₁.count '\n', e.location.column⟩⟩ := by
  have hfree := (balanced_eq_ok_iff.mp h).1
  have hcut := (cut_lexemes t₁).append_of_lines hfree hlines (cut_lexemes t₂)
  have hdown := Scanner.scan_down (t₁.count '\n') .start (.outside []) (lexemes t₂)
  rw [balanced_eq_resume, ← cut_iff.mp hcut, Walk.resume_append _ hfree]
  show ((Walk.behind (lexemes t₁)).resume (lexemes t₂)).1 = _
  rw [Walk.behind_of_lines h hlines, balanced_eq_resume t₂, Walk.start_resume]
  simp only [Walk.resume, Context.down] at hdown ⊢
  rw [hdown]
  cases (Scanner.scan .start (.outside []) (lexemes t₂)).1 <;> rfl

/-- The last line begins with a slash and ends in a line comment that holds a brace. -/
def linesSample : Text := "A \x7bx\x7d\n/ B // \x7b\n".toList

def brokenSample : Text := "C \x7by\x7d /*\n".toList

theorem balanced_linesSample : balanced linesSample = .ok [⟨"A".toList, "x".toList⟩] := by cbv

theorem balanced_brokenSample : balanced brokenSample = .error ⟨.openComment, ⟨1, 7⟩⟩ := by cbv

theorem linesSample_append_brokenSample :
    balanced linesSample = .ok [⟨"A".toList, "x".toList⟩] ∧ linesSample.getLast? = some '\n' ∧
      balanced (linesSample ++ brokenSample) = .error ⟨.openComment, ⟨3, 7⟩⟩ := by
  refine ⟨balanced_linesSample, rfl, ?_⟩
  rw [balanced_append balanced_linesSample (.inr rfl), balanced_brokenSample]
  rfl

theorem exists_front {t : Text} {bs : List Block} (h : balanced t = .ok bs) (s : Text) :
    ∃ front back, lexemes (t ++ s) = front ++ back ∧ (∀ l ∈ front, l.fault? = none) ∧
      (Walk.behind front).blocks = bs := by
  obtain ⟨hfree, houtline⟩ := balanced_eq_ok_iff.mp h
  obtain ⟨run, hbehind⟩ := houtline.behind hfree
  have hblocks : (Walk.behind (lexemes t)).blocks = bs := by rw [hbehind]
  rcases List.eq_nil_or_concat' (lexemes t) with hnil | ⟨front, l, hls⟩
  · rw [hnil] at hblocks
    exact ⟨[], lexemes (t ++ s), rfl, by simp, hblocks⟩
  · have hmore := lexemes_append hls s
    by_cases hl : l = code '}'
    · -- A closing brace stays what it is, so all lexemes of the text are kept.
      have hbrace : (code '}').Fits s := ⟨by decide, by simp⟩
      rw [hl, lexemes_text_append hbrace] at hmore
      refine ⟨lexemes t, lexemes s, ?_, hfree, hblocks⟩
      rw [hmore, hls, hl, List.append_assoc]
      rfl
    · refine ⟨front, lexemes (l.text ++ s), hmore, ?_, ?_⟩
      · intro k hk
        exact hfree k (by simp [hls, hk])
      · rw [hls, Walk.behind_concat] at hblocks
        simpa [Walk.next, Context.step_found_of_ne _ _ hl] using hblocks

theorem balanced_prefix_append {t s : Text} {bs cs : List Block} (h : balanced t = .ok bs)
    (hs : balanced (t ++ s) = .ok cs) : bs <+: cs := by
  obtain ⟨front, back, hls, hfree, rfl⟩ := exists_front h s
  rw [balanced_eq_resume, hls, Walk.resume_append _ hfree] at hs
  exact Walk.prefix_of_resume hs

theorem lazy_prefix_append (t s : Text) : lazy t <+: lazy (t ++ s) := by
  fun_induction lazy t with
  | case1 => exact List.nil_prefix
  | case2 t before inside hopen hname ih =>
    obtain ⟨rfl, hb⟩ := Mark.seek_char_eq_some_iff.mp hopen
    rw [List.append_assoc, List.cons_append, lazy_unnamed hb hname]
    exact ih
  | case3 => exact List.nil_prefix
  | case4 t before inside hopen name hname body rest hclose ih =>
    obtain ⟨rfl, hb⟩ := Mark.seek_char_eq_some_iff.mp hopen
    obtain ⟨rfl, hbody⟩ := Mark.seek_char_eq_some_iff.mp hclose
    rw [List.append_assoc, List.cons_append, List.append_assoc, List.cons_append,
      lazy_named hb hname hbody]
    exact (List.prefix_cons_inj _).mpr ih

end Block

theorem Mode.blocks_prefix_append {mode : Mode} {t s : Text} {bs cs : List Block}
    (h : mode.blocks t = .ok bs) (hs : mode.blocks (t ++ s) = .ok cs) : bs <+: cs := by
  cases mode with
  | lazy =>
    obtain rfl := Except.ok.inj h
    obtain rfl := Except.ok.inj hs
    exact Block.lazy_prefix_append t s
  | balanced => exact Block.balanced_prefix_append h hs

namespace Reference

/-- More text leaves the sections of a text in front of all others, as they are. The lazy mode
always has both references. -/
theorem extract_append (t s : Text) :
    (∀ mode r₁ r₂, extract mode t = .ok r₁ → extract mode (t ++ s) = .ok r₂ →
      r₁.sections <+: r₂.sections) ∧
      ∃ r₁ r₂, extract .lazy t = .ok r₁ ∧ extract .lazy (t ++ s) = .ok r₂ ∧
        r₁.sections <+: r₂.sections := by
  have hkeeps : ∀ mode r₁ r₂, extract mode t = .ok r₁ → extract mode (t ++ s) = .ok r₂ →
      r₁.sections <+: r₂.sections := by
    intro mode r₁ r₂ h₁ h₂
    obtain ⟨bs, hbs, hr₁⟩ := extract_eq_ok_iff.mp h₁
    obtain ⟨cs, hcs, hr₂⟩ := extract_eq_ok_iff.mp h₂
    rw [hr₁, hr₂]
    exact (Mode.blocks_prefix_append hbs hcs).map Section.ofBlock
  exact ⟨hkeeps, _, _, extract_lazy t, extract_lazy (t ++ s),
    hkeeps .lazy _ _ (extract_lazy t) (extract_lazy (t ++ s))⟩

/-- It ends in a slash that the text behind it makes the opener of a comment. -/
def slashSample : Text := "A \x7b/**\nd*/\n\n.decl f(x)\x7d B /".toList

def starSample : Text := "* \x7b */ C \x7by\x7d".toList

def slashSection : Section :=
  ⟨⟨"A".toList, "/**\nd*/\n\n.decl f(x)".toList⟩, [⟨"d".toList, "f(x)".toList⟩]⟩

theorem extract_slashSample : extract .balanced slashSample = .ok ⟨[slashSection]⟩ := by cbv

theorem extract_slashSample_append :
    extract .balanced (slashSample ++ starSample) =
      .ok ⟨[slashSection, ⟨⟨" C".toList, "y".toList⟩, []⟩]⟩ := by
  cbv

theorem slashSample_prefix_append :
    extract .balanced slashSample = .ok ⟨[slashSection]⟩ ∧
      extract .balanced (slashSample ++ starSample) =
        .ok ⟨[slashSection, ⟨⟨" C".toList, "y".toList⟩, []⟩]⟩ ∧
      [slashSection] <+: [slashSection, ⟨⟨" C".toList, "y".toList⟩, []⟩] :=
  ⟨extract_slashSample, extract_slashSample_append,
    (extract_append slashSample starSample).1 .balanced _ _ extract_slashSample
      extract_slashSample_append⟩

end Reference

end DatalogDoc
