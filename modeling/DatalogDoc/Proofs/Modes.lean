import DatalogDoc.Proofs.LazySearch
import DatalogDoc.Proofs.Outline
import DatalogDoc.Proofs.Truncation
import DatalogDoc.Reference
import Mathlib

/-!
# What the two modes find in one text

Where every brace is code, a lazy search meets all blocks of a balanced scan, each cut short at its
first closing brace, and in a text without nested blocks it finds these and no others.
-/

namespace DatalogDoc

namespace Lexeme

/-- No brace lies inside a comment or a string. -/
def BracesInCode (ls : List Lexeme) : Prop :=
  ∀ l ∈ ls, ∀ c ∈ l.text, c = '{' ∨ c = '}' → l = code c

theorem BracesInCode.not_mem {ls : List Lexeme} (h : BracesInCode ls) {c : Char}
    (hc : c = '{' ∨ c = '}') (hls : code c ∉ ls) : c ∉ ls.flatMap text := by
  intro hmem
  obtain ⟨l, hl, hcl⟩ := List.mem_flatMap.mp hmem
  exact hls (h l hl c hcl hc ▸ hl)

@[simp] theorem bracesInCode_append {ls ks : List Lexeme} :
    BracesInCode (ls ++ ks) ↔ BracesInCode ls ∧ BracesInCode ks := List.forall_mem_append

@[simp] theorem bracesInCode_cons {l : Lexeme} {ls : List Lexeme} :
    BracesInCode (l :: ls) ↔ (∀ c ∈ l.text, c = '{' ∨ c = '}' → l = code c) ∧ BracesInCode ls :=
  List.forall_mem_cons

@[simp] theorem bracesInCode_map_code (t : Text) : BracesInCode (t.map code) := by
  intro l hl
  obtain ⟨c, -, rfl⟩ := List.mem_map.mp hl
  simp [text]

theorem BracesInCode.of_block {outer inner rest : List Lexeme}
    (h : BracesInCode (outer ++ code '{' :: (inner ++ code '}' :: rest))) :
    BracesInCode outer ∧ BracesInCode inner ∧ BracesInCode rest := by
  simp only [bracesInCode_append, bracesInCode_cons] at h
  exact ⟨h.1, h.2.2.1, h.2.2.2.2⟩

/-- Where braces pair up, the first one opens. -/
theorem nested_first {ls : List Lexeme} (h : Nested ls) :
    (code '{' ∉ ls ∧ code '}' ∉ ls) ∨
      ∃ front back, ls = front ++ code '{' :: back ∧ code '{' ∉ front ∧ code '}' ∉ front := by
  induction h with
  | nil => exact .inl (by simp)
  | @plain l ls ho hc _ ih =>
    rcases ih with ⟨ihopen, ihclose⟩ | ⟨front, back, rfl, ihopen, ihclose⟩
    · exact .inl (by simp [ihopen, ihclose, Ne.symm ho, Ne.symm hc])
    · exact .inr ⟨l :: front, back, rfl, by simp [ihopen, ihclose, Ne.symm ho, Ne.symm hc]⟩
  | @block inner ls _ _ _ _ => exact .inr ⟨[], _, rfl, by simp⟩

end Lexeme

/-- Behind every opening brace a closing one stands before the next opening one. -/
def Flat (t : Text) : Prop := ∀ u, '{' :: u <:+ t → '}' ∈ u.takeWhile (· ≠ '{')

theorem flat_iff_tails {t : Text} :
    Flat t ↔ ∀ s ∈ t.tails, s.head? = some '{' → '}' ∈ s.tail.takeWhile (· ≠ '{') := by
  constructor
  · intro h s hs hhead
    obtain ⟨u, rfl⟩ := List.head?_eq_some_iff.mp hhead
    exact h u ((List.mem_tails _ _).mp hs)
  · intro h u hu
    exact h ('{' :: u) ((List.mem_tails _ _).mpr hu) rfl

instance (t : Text) : Decidable (Flat t) := decidable_of_iff _ flat_iff_tails.symm

theorem Flat.of_append {t u : Text} (h : Flat (t ++ u)) : Flat u := by
  intro v hv
  exact h v (hv.trans (List.suffix_append t u))

namespace Block

open Lexeme

theorem takeWhile_ne_append {c : Char} {t : Text} (h : c ∉ t) (u : Text) :
    (t ++ c :: u).takeWhile (· ≠ c) = t := by
  refine takeWhile_eq_iff.mpr ⟨c :: u, rfl, ?_, by simp⟩
  intro d hd
  have hne : d ≠ c := by
    rintro rfl
    exact h hd
  simpa using hne

theorem not_mem_of_flat {inner : List Lexeme} (hi : Nested inner) (hcode : BracesInCode inner)
    {p u : Text} (hflat : Flat (p ++ '{' :: (inner.flatMap text ++ u))) :
    '{' ∉ inner.flatMap text ∧ '}' ∉ inner.flatMap text := by
  rcases nested_first hi with ⟨ho, hc⟩ | ⟨front, back, rfl, ho, hc⟩
  · exact ⟨hcode.not_mem (.inl rfl) ho, hcode.not_mem (.inr rfl) hc⟩
  · -- The first brace of the block would open before any brace closes.
    exfalso
    have hfront : BracesInCode front := (bracesInCode_append.mp hcode).1
    have hopen : '{' ∉ front.flatMap text := hfront.not_mem (.inl rfl) ho
    have hclose := hflat _ (List.suffix_append p _)
    rw [List.flatMap_append, List.append_assoc, List.flatMap_cons, text, List.append_assoc,
      List.singleton_append, takeWhile_ne_append hopen] at hclose
    exact hfront.not_mem (.inr rfl) hc hclose

/-- The block as far as its first closing brace. -/
def cut (b : Block) : Block := ⟨b.name, b.body.takeWhile (· ≠ '}')⟩

theorem cut_of_not_mem {b : Block} (h : '}' ∉ b.body) : b.cut = b := by
  have hbody : b.body.takeWhile (· ≠ '}') = b.body := by
    rw [List.takeWhile_eq_self_iff]
    intro c hc
    have hne : c ≠ '}' := by
      rintro rfl
      exact h hc
    simpa using hne
  rw [cut, hbody]

theorem exists_lazy_named {before name : Text} (hb : '{' ∉ before)
    (hname : nameBefore? before = some name) (body rest : Text) :
    ∃ bs, lazy (before ++ '{' :: (body ++ '}' :: rest)) = cut ⟨name, body⟩ :: (bs ++ lazy rest) := by
  by_cases hclose : '}' ∈ body
  · obtain ⟨short, more, rfl, hshort⟩ := List.eq_append_cons_of_mem hclose
    obtain ⟨bs, hbs⟩ := exists_lazy_append_close more rest
    refine ⟨bs, ?_⟩
    rw [List.append_assoc, List.cons_append, lazy_named hb hname hshort, hbs, cut,
      takeWhile_ne_append hshort]
  · refine ⟨[], ?_⟩
    rw [lazy_named hb hname hclose, cut_of_not_mem hclose, List.nil_append]

theorem flatMap_text_block (outer inner rest : List Lexeme) :
    (outer ++ code '{' :: (inner ++ code '}' :: rest)).flatMap text =
      outer.flatMap text ++ '{' :: (inner.flatMap text ++ '}' :: rest.flatMap text) := by
  simp [text]

theorem Outline.sublist_lazy {ls : List Lexeme} {bs : List Block} (h : Outline ls bs)
    (hcode : BracesInCode ls) : (bs.map cut).Sublist (lazy (ls.flatMap text)) := by
  -- The search may find blocks inside the block, but it starts afresh behind its closing brace.
  induction h with
  | last => exact List.nil_sublist _
  | @block outer inner rest bs ho _ _ ih =>
    obtain ⟨hcouter, -, hcrest⟩ := hcode.of_block
    have houter : '{' ∉ outer.flatMap text := hcouter.not_mem (.inl rfl) ho
    rw [flatMap_text_block]
    cases hname : nameBefore? (outer.flatMap text) with
    | none =>
      obtain ⟨cs, hcs⟩ := exists_lazy_append_close (inner.flatMap text) (rest.flatMap text)
      rw [lazy_unnamed houter hname, hcs, between?, hname]
      exact (ih hcrest).trans (List.sublist_append_right _ _)
    | some name =>
      obtain ⟨cs, hcs⟩ := exists_lazy_named houter hname (inner.flatMap text) (rest.flatMap text)
      rw [hcs, between?, hname]
      exact ((ih hcrest).trans (List.sublist_append_right _ _)).cons_cons _

theorem Outline.lazy_eq {ls : List Lexeme} {bs : List Block} (h : Outline ls bs)
    (hcode : BracesInCode ls) (hflat : Flat (ls.flatMap text)) : lazy (ls.flatMap text) = bs := by
  induction h with
  | last ho => exact lazy_of_not_mem (hcode.not_mem (.inl rfl) ho)
  | @block outer inner rest bs ho hi _ ih =>
    obtain ⟨hcouter, hcinner, hcrest⟩ := hcode.of_block
    have houter : '{' ∉ outer.flatMap text := hcouter.not_mem (.inl rfl) ho
    rw [flatMap_text_block] at hflat ⊢
    obtain ⟨hopen, hclose⟩ := not_mem_of_flat hi hcinner hflat
    have hrest : lazy (rest.flatMap text) = bs := by
      apply ih hcrest
      apply Flat.of_append (t := outer.flatMap text ++ '{' :: (inner.flatMap text ++ ['}']))
      simpa using hflat
    cases hname : nameBefore? (outer.flatMap text) with
    | none =>
      -- The search goes on inside the unnamed block and finds no brace there that opens.
      rw [lazy_unnamed houter hname, lazy_append_cons hopen (by decide) (by decide), hrest, between?,
        hname]
      rfl
    | some name =>
      rw [lazy_named houter hname hclose, hrest, between?, hname]
      rfl

end Block

/-- The section as the lazy mode gives it: the same name, the body as far as its first closing brace,
and the declarations that come first. -/
def Section.CutTo (s short : Section) : Prop :=
  short.name = s.name ∧ short.body = s.body.takeWhile (· ≠ '}') ∧
    short.declarations <+: s.declarations

theorem Section.cutTo_ofBlock (b : Block) : (ofBlock b).CutTo (ofBlock b.cut) := by
  refine ⟨rfl, rfl, ?_⟩
  have hbody : b.cut.body ++ b.body.dropWhile (· ≠ '}') = b.body :=
    List.takeWhile_append_dropWhile
  have hprefix := Declaration.all_prefix_append b.cut.body (b.body.dropWhile (· ≠ '}'))
  rw [hbody] at hprefix
  exact hprefix

namespace Reference

open Lexeme

theorem outline_of_extract {t : Text} {r : Reference} (h : extract .balanced t = .ok r) :
    ∃ bs, Block.Outline (lexemes t) bs ∧ r.sections = bs.map Section.ofBlock := by
  obtain ⟨bs, hbs, hr⟩ := extract_eq_ok_iff.mp h
  exact ⟨bs, (Block.balanced_eq_ok_iff.mp hbs).2, hr⟩

/-- Both modes agree on a text without nested blocks whose comments and strings hold no brace. -/
theorem extract_modes_agree {t : Text} {r : Reference} (h : extract .balanced t = .ok r)
    (hcode : BracesInCode (lexemes t)) (hflat : Flat t) : extract .lazy t = .ok r := by
  obtain ⟨bs, hbs, hr⟩ := outline_of_extract h
  have ht : (lexemes t).flatMap text = t := flatMap_text_lexemes t
  have hlazy := hbs.lazy_eq hcode (by rwa [ht])
  rw [ht] at hlazy
  rw [extract_lazy, hlazy, ← hr]

/-- A comment and a string in front of names, an unnamed block, and a stray closing brace. -/
def flatSample : Text :=
  "/* c */A-b  \x7bx\x7d \x7bu\x7d \x7d //n\n\"s\"C \x7b/**\nd*/\n\n.decl f(x)\n\x7d".toList

def flatSampleReference : Reference :=
  ⟨[⟨⟨"A-b ".toList, "x".toList⟩, []⟩,
    ⟨⟨"C".toList, "/**\nd*/\n\n.decl f(x)\n".toList⟩, [⟨"d".toList, "f(x)".toList⟩]⟩]⟩

theorem extract_flatSample : extract .balanced flatSample = .ok flatSampleReference := by cbv

theorem lexemes_flatSample :
    lexemes flatSample =
      blockComment " c ".toList :: "A-b  \x7bx\x7d \x7bu\x7d \x7d ".toList.map code ++
        lineComment "n".toList true :: quoted "s".toList :: "C \x7b".toList.map code ++
        blockComment "*\nd".toList :: "\n\n.decl f(x)\n\x7d".toList.map code := by
  cbv

theorem bracesInCode_flatSample : BracesInCode (lexemes flatSample) := by
  rw [lexemes_flatSample]
  simp only [bracesInCode_append, bracesInCode_cons, bracesInCode_map_code, and_true]
  simp [text]

theorem flat_flatSample : Flat flatSample := by decide +kernel

theorem flatSample_modes_agree :
    extract .balanced flatSample = .ok flatSampleReference ∧ BracesInCode (lexemes flatSample) ∧
      Flat flatSample ∧ extract .lazy flatSample = .ok flatSampleReference :=
  ⟨extract_flatSample, bracesInCode_flatSample, flat_flatSample,
    extract_modes_agree extract_flatSample bracesInCode_flatSample flat_flatSample⟩

/-- In a text whose comments and strings hold no brace, the sections of the balanced mode stand in
their order among those of the lazy mode, each cut short at its first closing brace. -/
theorem extract_lazy_cuts {t : Text} {r : Reference} (h : extract .balanced t = .ok r)
    (hcode : BracesInCode (lexemes t)) :
    ∃ r', extract .lazy t = .ok r' ∧ ∃ f : Fin r.sections.length ↪o Fin r'.sections.length,
      ∀ i, (r.sections.get i).CutTo (r'.sections.get (f i)) := by
  obtain ⟨sections⟩ := r
  obtain ⟨bs, hbs, rfl⟩ := outline_of_extract h
  have hsub := (hbs.sublist_lazy hcode).map Section.ofBlock
  rw [flatMap_text_lexemes] at hsub
  obtain ⟨f, hf⟩ := List.sublist_iff_exists_fin_orderEmbedding_get_eq.mp hsub
  have hlength : (bs.map Section.ofBlock).length = ((bs.map Block.cut).map Section.ofBlock).length := by
    simp
  refine ⟨_, extract_lazy t, (Fin.castOrderIso hlength).toOrderEmbedding.trans f, ?_⟩
  intro i
  have hcut := Section.cutTo_ofBlock (bs.get (i.cast (by simp)))
  have hget := hf (i.cast hlength)
  simp only [List.get_eq_getElem, List.getElem_map, Fin.val_cast] at hget hcut ⊢
  rw [hget] at hcut
  exact hcut

/-- Nested blocks, in which a lazy search finds spurious ones, and a body cut between its
declarations. -/
def nestedSample : Text :=
  ("A \x7bx \x7by\x7d Z \x7bw\x7d v\x7d \x7bB \x7bq\x7d r\x7d\n"
    ++ "C \x7b/**\nd*/\n\n.decl f(x)\x7b\x7d\n/**\ne*/\n\n.decl g(y)\x7d").toList

def nestedSampleReference : Reference :=
  ⟨[⟨⟨"A".toList, "x \x7by\x7d Z \x7bw\x7d v".toList⟩, []⟩,
    ⟨⟨"C".toList, "/**\nd*/\n\n.decl f(x)\x7b\x7d\n/**\ne*/\n\n.decl g(y)".toList⟩,
      [⟨"d".toList, "f(x)".toList⟩, ⟨"e".toList, "g(y)".toList⟩]⟩]⟩

theorem extract_nestedSample : extract .balanced nestedSample = .ok nestedSampleReference := by cbv

theorem lexemes_nestedSample :
    lexemes nestedSample =
      "A \x7bx \x7by\x7d Z \x7bw\x7d v\x7d \x7bB \x7bq\x7d r\x7d\nC \x7b".toList.map code ++
        blockComment "*\nd".toList :: "\n\n.decl f(x)\x7b\x7d\n".toList.map code ++
        blockComment "*\ne".toList :: "\n\n.decl g(y)\x7d".toList.map code := by
  cbv

theorem bracesInCode_nestedSample : BracesInCode (lexemes nestedSample) := by
  rw [lexemes_nestedSample]
  simp only [bracesInCode_append, bracesInCode_cons, bracesInCode_map_code, and_true, true_and]
  simp [text]

theorem nestedSample_lazy_cuts :
    extract .balanced nestedSample = .ok nestedSampleReference ∧
      BracesInCode (lexemes nestedSample) ∧
      ∃ r', extract .lazy nestedSample = .ok r' ∧
        ∃ f : Fin nestedSampleReference.sections.length ↪o Fin r'.sections.length,
          ∀ i, (nestedSampleReference.sections.get i).CutTo (r'.sections.get (f i)) :=
  ⟨extract_nestedSample, bracesInCode_nestedSample,
    extract_lazy_cuts extract_nestedSample bracesInCode_nestedSample⟩

end Reference

end DatalogDoc
