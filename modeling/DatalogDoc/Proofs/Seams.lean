import DatalogDoc.Proofs.Cutting

/-!
# Where two texts meet

Of the text behind it a lexeme sees the first character at most. So the cut of a text goes on with
the cut of another as soon as the last lexeme in front of the seam may stand there.
-/

namespace DatalogDoc.Lexeme

theorem text_ne_nil (l : Lexeme) : l.text ≠ [] := by
  cases l with
  | lineComment u ended => cases ended <;> simp [text]
  | _ => simp [text]

theorem text_head?_append (l : Lexeme) (t : Text) : (l.text ++ t).head? = l.text.head? := by
  cases l with
  | lineComment u ended => cases ended <;> rfl
  | _ => rfl

theorem Fits.of_head? {l : Lexeme} {rest s : Text} (h : l.Fits rest) (hs : s.head? = rest.head?) :
    l.Fits s := by
  have hnil : rest = [] → s = [] := by
    rintro rfl
    exact List.head?_eq_none_iff.mp hs
  cases l with
  | blockComment u => exact h
  | lineComment u ended =>
    cases ended with
    | true => exact h
    | false => exact ⟨h.1, hnil h.2⟩
  | quoted u => exact h
  | code c =>
    refine ⟨h.1, ?_⟩
    rw [hs]
    exact h.2
  | openComment u => exact ⟨h.1, hnil h.2⟩
  | openString u =>
    obtain ⟨v, hv, hline | ⟨hrest, hu⟩⟩ := h
    · exact ⟨v, hv, .inl hline⟩
    · exact ⟨v, hv, .inr ⟨hnil hrest, hu⟩⟩

/-- The end of a text can be exchanged for another one that begins with the same character. -/
theorem Cut.splice {t s : Text} {ls ks js : List Lexeme} (h : Cut t (ls ++ ks)) (hs : Cut s js)
    (hhead : s.head? = (ks.flatMap text).head?) : Cut (ls.flatMap text ++ s) (ls ++ js) := by
  induction ls generalizing t with
  | nil => exact hs
  | cons l ls ih =>
    rw [List.cons_append] at h
    obtain ⟨hl, hrest⟩ := h.of_cons
    rw [List.flatMap_cons, List.append_assoc]
    refine .cons (hl.of_head? ?_) (ih hrest)
    rw [List.flatMap_append, List.head?_append, List.head?_append, hhead]

theorem Cut.append {t s : Text} {ls ks : List Lexeme} (h : Cut t ls) (hs : Cut s ks)
    (hlast : ∀ l ∈ ls.getLast?, l.Fits s) : Cut (t ++ s) (ls ++ ks) := by
  rcases List.eq_nil_or_concat' ls with rfl | ⟨ls, l, rfl⟩
  · rw [← h.flatMap_text]
    exact hs
  · have hl : l.Fits s := hlast l (by simp)
    have hcut := h.splice (.cons hl hs) (by rw [text_head?_append, List.flatMap_singleton])
    rw [← h.flatMap_text]
    simpa using hcut

/-- More text changes the last lexeme of a cut at most. -/
theorem lexemes_append {t : Text} {ls : List Lexeme} {l : Lexeme} (h : lexemes t = ls ++ [l])
    (s : Text) : lexemes (t ++ s) = ls ++ lexemes (l.text ++ s) := by
  have hcut : Cut t (ls ++ [l]) := cut_iff.mpr h.symm
  have hmore := hcut.splice (cut_lexemes (l.text ++ s))
    (by rw [text_head?_append, List.flatMap_singleton])
  rw [← hcut.flatMap_text]
  simpa using (cut_iff.mp hmore).symm

end DatalogDoc.Lexeme
