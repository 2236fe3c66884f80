import DatalogDoc.Proofs.LazySearch
import DatalogDoc.Proofs.Outline
import DatalogDoc.Proofs.Truncation
import DatalogDoc.Reference
import Mathlib.Tactic.IntervalCases

/-!
# Reading back what was printed

A printed reference is read back as it was, in either mode, as long as nothing in it closes a
comment, a signature or a block early.
-/

namespace DatalogDoc

open Lexeme

namespace Declaration

theorem print_eq (d : Declaration) :
    d.print = "/**\n".toList ++ d.doc ++ "*/\n\n.decl ".toList ++ d.signature := rfl

/-- The written form of a declaration, on lines of its own. -/
def paragraph (d : Declaration) : Text := '\n' :: d.print ++ ['\n']

/-- The doc does not close its comment, and the signature ends at its only closing parenthesis. -/
structure Printable (d : Declaration) : Prop where
  doc : ¬ ['*', '/'] <:+: d.doc
  signature : ∃ head, d.signature = head ++ [')'] ∧ ')' ∉ head

theorem docOpener_seek {gap : Text} (hgap : '/' ∉ gap) (rest : Text) :
    docOpener.seek (gap ++ ("/**\n".toList ++ rest)) = some (gap, rest) := by
  apply Mark.seek_word_of_not_prefix
  intro p c q hp hprefix
  rw [List.cons_prefix_cons] at hprefix
  simp [hp, ← hprefix.1] at hgap

/-- No keyword stands in the doc, and the signature ends at its only closing parenthesis. -/
structure Readable (d : Declaration) : Prop where
  doc : keyword.seek d.doc = none
  signature : ∃ head, d.signature = head ++ [')'] ∧ ')' ∉ head

theorem Printable.readable {d : Declaration} (hd : d.Printable) : d.Readable := by
  refine ⟨?_, hd.signature⟩
  rw [Mark.seek_eq_none_iff]
  intro p u hu
  rw [Option.eq_none_iff_forall_ne_some]
  intro r hr
  obtain ⟨x, rfl⟩ := keyword_eq_some_iff.mp hr
  exact hd.doc ⟨p, "\n\n".toList ++ x :: "decl ".toList ++ r, by rw [hu]; simp⟩

/-- Two keywords do not overlap, whatever stands in the place of the dot. -/
theorem drop_keyword_not_prefix (x : Char) {i : Nat} (hpos : 0 < i) (hi : i < 10) :
    ¬ ("*/\n\n".toList ++ x :: "decl ".toList).drop i <+: "*/\n\n.decl ".toList := by
  interval_cases i <;> simp

theorem keyword_seek {doc : Text} (hdoc : keyword.seek doc = none) (rest : Text) :
    keyword.seek (doc ++ ("*/\n\n.decl ".toList ++ rest)) = some (doc, rest) := by
  refine Mark.seek_eq_some_iff.mpr ⟨_, rfl, keyword_eq_some_iff.mpr ⟨'.', rfl⟩, ?_⟩
  intro p c q hp
  rw [Option.eq_none_iff_forall_ne_some]
  intro r hr
  obtain ⟨x, hx⟩ := keyword_eq_some_iff.mp hr
  by_cases hlen : 10 ≤ (c :: q).length
  · -- The earlier keyword would lie within the doc.
    obtain ⟨v, hv, -⟩ := append_split hx.symm (by simpa using hlen)
    have hearly : keyword (c :: q) = some v := keyword_eq_some_iff.mpr ⟨x, hv⟩
    rw [Mark.seek_eq_none_iff.mp hdoc p (c :: q) hp] at hearly
    simp at hearly
  · -- It would begin in the doc and overlap the keyword behind it.
    obtain ⟨y, hy, hrest⟩ := append_split hx (by simp at hlen ⊢; omega)
    apply drop_keyword_not_prefix x (i := (c :: q).length) (by simp) (by omega)
    rw [hy, List.drop_left]
    have hfront : y <+: "*/\n\n.decl ".toList ++ rest := ⟨r, hrest.symm⟩
    have hsum := congrArg List.length hy
    apply List.prefix_of_prefix_length_le hfront (List.prefix_append _ _)
    simp at hsum ⊢
    omega

theorem first?_print {d : Declaration} (hd : d.Readable) {gap : Text} (hgap : '/' ∉ gap)
    (rest : Text) : first? (gap ++ d.print ++ rest) = some (d, rest) := by
  obtain ⟨doc, signature⟩ := d
  obtain ⟨hdoc, head, rfl, hhead⟩ := hd
  have hsig : signatureEnd.seek (head ++ ')' :: rest) = some (head, rest) :=
    Mark.seek_char_eq_some_iff.mpr ⟨rfl, hhead⟩
  refine first?_eq_some_iff.mpr ⟨gap, _, doc, _, head, ?_, keyword_seek hdoc _, hsig, rfl⟩
  rw [← docOpener_seek hgap, print_eq]
  simp

theorem all_of_not_mem {t : Text} (h : '/' ∉ t) : all t = [] := by
  have hopen : docOpener.seek t = none := by
    apply Mark.seek_word_eq_none_iff.mpr
    intro hword
    exact h (hword.subset (by simp))
  apply all_of_first?_eq_none
  simp [first?, hopen]

theorem all_paragraphs {ds : List Declaration} (hds : ∀ d ∈ ds, d.Printable) {gap : Text}
    (hgap : '/' ∉ gap) : all (gap ++ ds.flatMap paragraph) = ds := by
  induction ds generalizing gap with
  | nil => simpa using all_of_not_mem hgap
  | cons d ds ih =>
    have hsplit : gap ++ (d :: ds).flatMap paragraph =
        (gap ++ ['\n']) ++ d.print ++ (['\n'] ++ ds.flatMap paragraph) := by
      simp [paragraph]
    have hnl : '/' ∉ gap ++ ['\n'] := by simp [hgap]
    rw [hsplit, all_of_first? (first?_print (hds d (by simp)).readable hnl _),
      ih (fun e he => hds e (by simp [he])) (by simp)]

/-- No character of the signature begins a string or a comment or belongs to a block. -/
def PlainSignature (d : Declaration) : Prop := ∀ c ∈ ['{', '}', '"', '/'], c ∉ d.signature

theorem PlainSignature.ne {d : Declaration} (hd : d.PlainSignature) {c : Char}
    (hc : c ∈ d.signature) : c ≠ '{' ∧ c ≠ '}' ∧ c ≠ '"' ∧ c ≠ '/' := by
  refine ⟨?_, ?_, ?_, ?_⟩
  all_goals
    rintro rfl
    exact hd _ (by simp) hc

def lexemes (d : Declaration) : List Lexeme :=
  code '\n' :: blockComment ("*\n".toList ++ d.doc) ::
    ("\n\n.decl ".toList ++ d.signature ++ ['\n']).map code

theorem PlainSignature.tail_ne {d : Declaration} (hd : d.PlainSignature) {c : Char}
    (hc : c ∈ "\n\n.decl ".toList ++ d.signature ++ ['\n']) :
    c ≠ '{' ∧ c ≠ '}' ∧ c ≠ '"' ∧ c ≠ '/' := by
  have hframe : ∀ c ∈ "\n\n.decl ".toList ++ ['\n'], c ≠ '{' ∧ c ≠ '}' ∧ c ≠ '"' ∧ c ≠ '/' := by
    simp
  by_cases hsig : c ∈ d.signature
  · exact hd.ne hsig
  · exact hframe c (by simpa [hsig] using hc)

end Declaration

namespace Lexeme

theorem cut_paragraph {d : Declaration} (hd : d.Printable) (hplain : d.PlainSignature)
    {rest : Text} {ls : List Lexeme} (h : Cut rest ls) :
    Cut (d.paragraph ++ rest) (d.lexemes ++ ls) := by
  have htail := cut_code (fun c hc => (hplain.tail_ne hc).2.2) h
  have hdoc : ¬ ['*', '/'] <:+: "*\n".toList ++ d.doc := by
    show ¬ ['*', '/'] <:+: '*' :: '\n' :: d.doc
    simp [List.infix_cons_iff, hd.doc]
  have hcomment := Cut.cons (l := blockComment ("*\n".toList ++ d.doc)) hdoc htail
  have hline := cut_code (t := ['\n']) (by simp) hcomment
  simpa [Declaration.paragraph, Declaration.print_eq, Declaration.lexemes, text] using hline

theorem cut_paragraphs {ds : List Declaration} (hds : ∀ d ∈ ds, d.Printable)
    (hplain : ∀ d ∈ ds, d.PlainSignature) {rest : Text} {ls : List Lexeme} (h : Cut rest ls) :
    Cut (ds.flatMap Declaration.paragraph ++ rest) (ds.flatMap Declaration.lexemes ++ ls) := by
  induction ds with
  | nil => exact h
  | cons d ds ih =>
    rw [List.flatMap_cons, List.flatMap_cons, List.append_assoc, List.append_assoc]
    apply cut_paragraph (hds d (by simp)) (hplain d (by simp))
    exact ih (fun e he => hds e (by simp [he])) fun e he => hplain e (by simp [he])

theorem nested_of_ne {ls : List Lexeme} (h : ∀ l ∈ ls, l ≠ code '{' ∧ l ≠ code '}') :
    Nested ls := by
  induction ls with
  | nil => exact .nil
  | cons l ls ih =>
    obtain ⟨hopen, hclose⟩ := h l (by simp)
    exact .plain hopen hclose (ih fun k hk => h k (by simp [hk]))

end Lexeme

namespace Declaration

theorem flatMap_text_lexemes (d : Declaration) : d.lexemes.flatMap text = d.paragraph := by
  simp [lexemes, paragraph, print_eq, text]

theorem PlainSignature.lexeme_ne {d : Declaration} (hd : d.PlainSignature) {l : Lexeme}
    (hl : l ∈ d.lexemes) : l ≠ code '{' ∧ l ≠ code '}' := by
  simp only [lexemes, List.mem_cons, List.mem_map] at hl
  rcases hl with rfl | rfl | ⟨c, hc, rfl⟩
  · simp
  · simp
  · obtain ⟨hopen, hclose, -⟩ := hd.tail_ne hc
    simp [hopen, hclose]

theorem fault?_lexeme {d : Declaration} {l : Lexeme} (hl : l ∈ d.lexemes) : l.fault? = none := by
  simp only [lexemes, List.mem_cons, List.mem_map] at hl
  rcases hl with rfl | rfl | ⟨c, -, rfl⟩
  all_goals rfl

end Declaration

namespace Section

/-- The text between the braces of a printed section. -/
def interior (s : Section) : Text := s.declarations.flatMap Declaration.paragraph

def print (s : Section) : Text := s.name ++ [' ', '{'] ++ s.interior ++ ['}', '\n']

structure Printable (s : Section) : Prop where
  name_ne : s.name ≠ []
  name_chars : ∀ c ∈ s.name, Block.isNameChar c
  body_eq : s.body = s.interior
  declarations : ∀ d ∈ s.declarations, d.Printable

theorem Printable.ofBlock {s : Section} (hs : s.Printable) : ofBlock s.toBlock = s := by
  have hall : Declaration.all s.body = s.declarations := by
    have hread := Declaration.all_paragraphs hs.declarations (List.not_mem_nil (a := '/'))
    rw [hs.body_eq]
    exact hread
  rw [Section.ofBlock, hall]

theorem not_mem_interior {s : Section}
    (h : ∀ d ∈ s.declarations, '}' ∉ d.doc ∧ '}' ∉ d.signature) : '}' ∉ s.interior := by
  intro hmem
  obtain ⟨d, hd, hmem⟩ := List.mem_flatMap.mp hmem
  obtain ⟨hdoc, hsig⟩ := h d hd
  simp [Declaration.paragraph, Declaration.print_eq, hdoc, hsig] at hmem

theorem lazy_print {s : Section} (hs : s.Printable) (hbody : '}' ∉ s.body) (rest : Text) :
    Block.lazy (s.print ++ rest) = s.toBlock :: Block.lazy rest := by
  have hsplit : s.print ++ rest = s.toBlock.print ++ '\n' :: rest := by
    simp [print, Block.print, hs.body_eq]
  rw [hsplit, Block.lazy_print_append hs.name_ne hs.name_chars hbody]
  rw [← List.nil_append ('\n' :: rest), Block.lazy_append_cons (by simp) (by decide) (by decide)]

def lexemes (s : Section) : List Lexeme :=
  (s.name ++ [' ']).map code ++
    code '{' :: (s.declarations.flatMap Declaration.lexemes ++ [code '}', code '\n'])

theorem cut_print {s : Section} (hs : s.Printable)
    (hplain : ∀ d ∈ s.declarations, d.PlainSignature) {rest : Text} {ls : List Lexeme}
    (h : Cut rest ls) : Cut (s.print ++ rest) (s.lexemes ++ ls) := by
  have hend := cut_code (t := ['}', '\n']) (by simp) h
  have hbody := cut_paragraphs hs.declarations hplain hend
  have hsection := Block.cut_name_space hs.name_chars (cut_code (t := ['{']) (by simp) hbody)
  simpa [print, lexemes, interior] using hsection

theorem outline_print {s : Section} (hs : s.Printable)
    (hplain : ∀ d ∈ s.declarations, d.PlainSignature) {ls : List Lexeme} {bs : List Block}
    (h : Block.Outline ls bs) : Block.Outline (s.lexemes ++ ls) (s.toBlock :: bs) := by
  have hinner : Nested (s.declarations.flatMap Declaration.lexemes) := by
    apply nested_of_ne
    intro l hl
    obtain ⟨d, hd, hl⟩ := List.mem_flatMap.mp hl
    exact (hplain d hd).lexeme_ne hl
  have hbody : (s.declarations.flatMap Declaration.lexemes).flatMap text = s.body := by
    rw [hs.body_eq, interior, List.flatMap_assoc]
    simp only [Declaration.flatMap_text_lexemes]
  have hrest := h.cons_code (c := '\n') (by decide) (by decide)
  have hblock := hrest.named hs.name_ne hs.name_chars hinner
  rw [hbody] at hblock
  simpa [lexemes] using hblock

theorem fault?_lexeme {s : Section} {l : Lexeme} (hl : l ∈ s.lexemes) : l.fault? = none := by
  simp only [lexemes, List.mem_append, List.mem_cons, List.mem_map, List.mem_flatMap,
    List.not_mem_nil, or_false] at hl
  rcases hl with ⟨c, -, rfl⟩ | rfl | ⟨d, -, hl⟩ | rfl | rfl
  · rfl
  · rfl
  · exact Declaration.fault?_lexeme hl
  · rfl
  · rfl

end Section

namespace Reference

def print (r : Reference) : Text := r.sections.flatMap Section.print

theorem lazy_print {ss : List Section} (hss : ∀ s ∈ ss, s.Printable)
    (hbodies : ∀ s ∈ ss, '}' ∉ s.body) :
    Block.lazy (ss.flatMap Section.print) = ss.map Section.toBlock := by
  induction ss with
  | nil => exact Block.lazy_of_not_mem (by simp)
  | cons s ss ih =>
    rw [List.flatMap_cons, Section.lazy_print (hss s (by simp)) (hbodies s (by simp)),
      ih (fun s hs => hss s (by simp [hs])) fun s hs => hbodies s (by simp [hs]), List.map_cons]

theorem cut_print {ss : List Section} (hss : ∀ s ∈ ss, s.Printable)
    (hplain : ∀ s ∈ ss, ∀ d ∈ s.declarations, d.PlainSignature) :
    Cut (ss.flatMap Section.print) (ss.flatMap Section.lexemes) := by
  induction ss with
  | nil => exact .nil
  | cons s ss ih =>
    rw [List.flatMap_cons, List.flatMap_cons]
    apply Section.cut_print (hss s (by simp)) (hplain s (by simp))
    exact ih (fun s hs => hss s (by simp [hs])) fun s hs => hplain s (by simp [hs])

theorem outline_print {ss : List Section} (hss : ∀ s ∈ ss, s.Printable)
    (hplain : ∀ s ∈ ss, ∀ d ∈ s.declarations, d.PlainSignature) :
    Block.Outline (ss.flatMap Section.lexemes) (ss.map Section.toBlock) := by
  induction ss with
  | nil => exact .last (by simp)
  | cons s ss ih =>
    rw [List.flatMap_cons, List.map_cons]
    apply Section.outline_print (hss s (by simp)) (hplain s (by simp))
    exact ih (fun s hs => hss s (by simp [hs])) fun s hs => hplain s (by simp [hs])

theorem balanced_print {ss : List Section} (hss : ∀ s ∈ ss, s.Printable)
    (hplain : ∀ s ∈ ss, ∀ d ∈ s.declarations, d.PlainSignature) :
    Block.balanced (ss.flatMap Section.print) = .ok (ss.map Section.toBlock) := by
  have hlexemes : Lexeme.lexemes (ss.flatMap Section.print) = ss.flatMap Section.lexemes :=
    (cut_iff.mp (cut_print hss hplain)).symm
  rw [Block.balanced_eq_ok_iff, hlexemes]
  refine ⟨?_, outline_print hss hplain⟩
  intro l hl
  obtain ⟨s, -, hl⟩ := List.mem_flatMap.mp hl
  exact Section.fault?_lexeme hl

theorem map_ofBlock_toBlock {ss : List Section} (hss : ∀ s ∈ ss, s.Printable) :
    (ss.map Section.toBlock).map Section.ofBlock = ss := by
  have hid : ∀ s ∈ ss, (Section.ofBlock ∘ Section.toBlock) s = id s := fun s hs => (hss s hs).ofBlock
  rw [List.map_map, List.map_congr_left hid, List.map_id]

/-- A printed reference is read back whole: lazily if no doc and no signature holds a closing brace,
and up to balancing braces whatever the docs hold, if no signature holds a brace, a quote or a
slash. -/
theorem extract_print (r : Reference) (hr : ∀ s ∈ r.sections, s.Printable) :
    ((∀ s ∈ r.sections, ∀ d ∈ s.declarations, '}' ∉ d.doc ∧ '}' ∉ d.signature) →
        extract .lazy r.print = .ok r) ∧
      ((∀ s ∈ r.sections, ∀ d ∈ s.declarations, ∀ c ∈ ['{', '}', '"', '/'], c ∉ d.signature) →
        extract .balanced r.print = .ok r) := by
  refine ⟨?_, ?_⟩
  · intro hclose
    have hbodies : ∀ s ∈ r.sections, '}' ∉ s.body := by
      intro s hs
      rw [(hr s hs).body_eq]
      exact Section.not_mem_interior (hclose s hs)
    rw [extract_lazy, print, lazy_print hr hbodies, map_ofBlock_toBlock hr]
  · intro hplain
    apply extract_eq_ok_iff.mpr
    exact ⟨_, balanced_print hr hplain, (map_ofBlock_toBlock hr).symm⟩

/-- Names with blanks at their ends, docs that look like openers, keywords and strings, and a section
without declarations. -/
def printedSample : Reference :=
  let ds : List Declaration :=
    [⟨"\x7b /** \"x\" // .decl y(\n".toList, "f(x: a, y: b)".toList⟩, ⟨[], ")".toList⟩]
  ⟨[⟨⟨" A-b ".toList, ds.flatMap Declaration.paragraph⟩, ds⟩, ⟨⟨"C".toList, []⟩, []⟩]⟩

theorem printable_printedSample : ∀ s ∈ printedSample.sections, s.Printable := by
  refine List.forall_mem_cons.mpr
    ⟨⟨by decide, List.all_eq_true.mp rfl, rfl, ?_⟩, List.forall_mem_singleton.mpr ?_⟩
  · refine List.forall_mem_cons.mpr ⟨⟨by decide, "f(x: a, y: b".toList, rfl, by decide⟩, ?_⟩
    exact List.forall_mem_singleton.mpr ⟨by decide, [], rfl, by decide⟩
  · exact ⟨by decide, List.all_eq_true.mp rfl, rfl, by simp⟩

theorem printedSample_read_back :
    (∀ s ∈ printedSample.sections, s.Printable) ∧
      extract .lazy printedSample.print = .ok printedSample ∧
      extract .balanced printedSample.print = .ok printedSample :=
  ⟨printable_printedSample, (extract_print printedSample printable_printedSample).1 (by decide),
    (extract_print printedSample printable_printedSample).2 (by simp [printedSample])⟩

end Reference

end DatalogDoc
