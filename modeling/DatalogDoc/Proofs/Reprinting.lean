import DatalogDoc.Proofs.Printing
import DatalogDoc.Proofs.Seams
import Mathlib

/-!
# Printing what was read

Whatever text blocks and declarations were read from, they are read back as they are from their own
written forms, one directly behind the other.
-/

namespace DatalogDoc

open Lexeme

namespace Block

theorem proper_of_mem_lazy {t : Text} {b : Block} (h : b ∈ lazy t) :
    b.name ≠ [] ∧ (∀ c ∈ b.name, isNameChar c) ∧ '}' ∉ b.body := by
  fun_induction lazy t with
  | case1 => simp at h
  | case2 t before inside hopen hname ih => exact ih h
  | case3 => simp at h
  | case4 t before inside hopen name hname body rest hclose ih =>
    rcases List.mem_cons.mp h with rfl | h
    · obtain ⟨p, -, hne, hchars, -⟩ := nameBefore?_eq_some_iff.mp hname
      exact ⟨hne, hchars, (Mark.seek_char_eq_some_iff.mp hclose).2⟩
    · exact ih h

theorem lazy_flatMap_print {bs : List Block}
    (h : ∀ b ∈ bs, b.name ≠ [] ∧ (∀ c ∈ b.name, isNameChar c) ∧ '}' ∉ b.body) :
    lazy (bs.flatMap print) = bs := by
  induction bs with
  | nil => exact lazy_of_not_mem (by simp)
  | cons b bs ih =>
    obtain ⟨hne, hchars, hbody⟩ := h b (by simp)
    rw [List.flatMap_cons, lazy_print_append hne hchars hbody, ih fun c hc => h c (by simp [hc])]

/-- The block has a proper name, and its body is made of whole lexemes with paired braces that stay
what they are in front of a closing brace. -/
structure Whole (b : Block) : Prop where
  name_ne : b.name ≠ []
  name_chars : ∀ c ∈ b.name, isNameChar c
  body : ∃ inner, Nested inner ∧ (∀ l ∈ inner, l.fault? = none) ∧
    Cut (b.body ++ ['}']) (inner ++ [code '}'])

theorem Outline.whole {ls : List Lexeme} {bs : List Block} (h : Outline ls bs) {t : Text}
    (hcut : Cut t ls) (hfree : ∀ l ∈ ls, l.fault? = none) : ∀ b ∈ bs, b.Whole := by
  induction h generalizing t with
  | last => simp
  | @block outer inner rest bs _ hinner _ ih =>
    intro b hb
    have hinside := hcut.of_append.of_cons.2
    rcases List.mem_append.mp hb with hb | hb
    · obtain ⟨name, hname, rfl⟩ := Option.map_eq_some_iff.mp (Option.mem_toList.mp hb)
      obtain ⟨p, -, hne, hchars, -⟩ := nameBefore?_eq_some_iff.mp hname
      have hbrace : Cut ['}'] [code '}'] := cut_code (t := ['}']) (by simp) .nil
      refine ⟨hne, hchars, inner, hinner, ?_, hinside.splice hbrace ?_⟩
      · intro l hl
        exact hfree l (by simp [hl])
      · simp [text]
    · refine ih hinside.of_append.of_cons.2 ?_ b hb
      intro l hl
      exact hfree l (by simp [hl])

theorem Whole.balanced_print_append {b : Block} (hb : b.Whole) {rest : Text} {bs : List Block}
    (h : balanced rest = .ok bs) : balanced (b.print ++ rest) = .ok (b :: bs) := by
  obtain ⟨hfree, houtline⟩ := balanced_eq_ok_iff.mp h
  obtain ⟨hne, hchars, inner, hinner, hfreeInner, hbody⟩ := hb
  have htext : inner.flatMap text = b.body := by
    have hall := hbody.flatMap_text
    rw [List.flatMap_append, List.flatMap_singleton] at hall
    exact List.append_cancel_right hall
  -- The lexemes are those of the body, with the name and the braces around them.
  have hcut : Cut (b.print ++ rest)
      ((b.name ++ [' ']).map code ++ code '{' :: (inner ++ code '}' :: lexemes rest)) := by
    have hbrace := cut_code (t := ['}']) (by simp) (cut_lexemes rest)
    have hinside := hbody.splice hbrace (by simp [text])
    rw [htext] at hinside
    have hblock := cut_name_space hchars (cut_code (t := ['{']) (by simp) hinside)
    simpa [print] using hblock
  have hnamed := houtline.named hne hchars hinner
  rw [htext] at hnamed
  rw [balanced_eq_ok_iff, ← cut_iff.mp hcut]
  refine ⟨?_, hnamed⟩
  intro l hl
  simp only [List.mem_append, List.mem_cons, List.mem_map] at hl
  rcases hl with ⟨c, -, rfl⟩ | rfl | hl | rfl | hl
  · rfl
  · rfl
  · exact hfreeInner l hl
  · rfl
  · exact hfree l hl

theorem balanced_flatMap_print {bs : List Block} (h : ∀ b ∈ bs, b.Whole) :
    balanced (bs.flatMap print) = .ok bs := by
  induction bs with
  | nil =>
    rw [List.flatMap_nil, balanced_eq_ok_iff, lexemes]
    exact ⟨by simp, .last (by simp)⟩
  | cons b bs ih =>
    rw [List.flatMap_cons]
    exact (h b (by simp)).balanced_print_append (ih fun c hc => h c (by simp [hc]))

end Block

namespace Declaration

theorem readable_of_first? {t rest : Text} {d : Declaration} (h : first? t = some (d, rest)) :
    d.Readable := by
  obtain ⟨before, u, doc, v, head, -, hkey, hsig, rfl⟩ := first?_eq_some_iff.mp h
  exact ⟨Mark.seek_before width_keyword plain_keyword (by decide) hkey, head, rfl,
    (Mark.seek_char_eq_some_iff.mp hsig).2⟩

theorem readable_of_mem_all {t : Text} {d : Declaration} (h : d ∈ all t) : d.Readable := by
  fun_induction all t with
  | case1 => simp at h
  | case2 t e rest hfirst ih =>
    rcases List.mem_cons.mp h with rfl | h
    · exact readable_of_first? hfirst
    · exact ih h

theorem all_flatMap_print {ds : List Declaration} (h : ∀ d ∈ ds, d.Readable) :
    all (ds.flatMap print) = ds := by
  induction ds with
  | nil => exact all_of_not_mem (by simp)
  | cons d ds ih =>
    have hfirst := first?_print (h d (by simp)) (List.not_mem_nil (a := '/')) (ds.flatMap print)
    rw [List.flatMap_cons, ← List.nil_append (d.print ++ _), ← List.append_assoc,
      all_of_first? hfirst, ih fun e he => h e (by simp [he])]

end Declaration

namespace Block

/-- What was read from any text is read back from its own written form: balanced blocks, lazy
blocks, and declarations, even where a doc runs over other comments. -/
theorem read_printed (t body : Text) :
    (∀ bs, balanced t = .ok bs → balanced (bs.flatMap print) = .ok bs) ∧
      lazy ((lazy t).flatMap print) = lazy t ∧
      Declaration.all ((Declaration.all body).flatMap Declaration.print) =
        Declaration.all body := by
  refine ⟨?_, ?_, ?_⟩
  · intro bs h
    obtain ⟨hfree, houtline⟩ := balanced_eq_ok_iff.mp h
    exact balanced_flatMap_print (houtline.whole (cut_lexemes t) hfree)
  · exact lazy_flatMap_print fun b hb => proper_of_mem_lazy hb
  · exact Declaration.all_flatMap_print fun d hd => Declaration.readable_of_mem_all hd

/-- A body that ends in a line comment, one that ends in a slash, and other code around them. -/
def crowdedSample : Text :=
  "/* A \x7b */ A \x7bx \x7by\x7d \"\x7d\" // \x7d\n\x7d \x7bu\x7d B-b \x7b*/\x7d/".toList

/-- A doc that runs over another comment. -/
def crowdedBody : Text := "/**\na */ /**\nb*/\n\n.decl f(x) /**\nc".toList

theorem balanced_crowdedSample :
    balanced crowdedSample = .ok [⟨" A".toList, "x \x7by\x7d \"\x7d\" // \x7d\n".toList⟩,
      ⟨" B-b".toList, "*/".toList⟩] := by
  cbv

theorem crowdedSample_read_printed :
    let bs : List Block := [⟨" A".toList, "x \x7by\x7d \"\x7d\" // \x7d\n".toList⟩,
      ⟨" B-b".toList, "*/".toList⟩]
    balanced crowdedSample = .ok bs ∧ balanced (bs.flatMap print) = .ok bs ∧
      lazy ((lazy crowdedSample).flatMap print) = lazy crowdedSample ∧
      Declaration.all ((Declaration.all crowdedBody).flatMap Declaration.print) =
        Declaration.all crowdedBody :=
  ⟨balanced_crowdedSample,
    (read_printed crowdedSample crowdedBody).1 _ balanced_crowdedSample,
    (read_printed crowdedSample crowdedBody).2⟩

end Block

end DatalogDoc
