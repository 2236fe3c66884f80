import DatalogDoc.Proofs.DocumentedDeclarations

/-!
# Declarations of the front of a text

A declaration that a search finds in the front of a text is found in the whole text as well, so a
cut only drops declarations at the end of the list.
-/

namespace DatalogDoc

namespace Mark

/-- Where the mark stands is said by the characters that it takes, whatever follows them. -/
def Plain (m : Mark) : Prop := ∀ w r s, m (w ++ r) = some r → m (w ++ s) = some s

theorem plain_word (w : Text) : (word w).Plain := by
  intro v r s h
  have hv : v = w := List.append_cancel_right (word_eq_some_iff.mp h)
  exact word_eq_some_iff.mpr (by rw [hv])

theorem seek_append {m : Mark} {n : Nat} (hwidth : m.Width n) (hplain : m.Plain)
    {t before rest : Text} (h : m.seek t = some (before, rest)) (s : Text) :
    m.seek (t ++ s) = some (before, rest ++ s) := by
  obtain ⟨u, rfl, hu, hfirst⟩ := seek_eq_some_iff.mp h
  obtain ⟨w, rfl, hw⟩ := hwidth u rest hu
  refine seek_eq_some_iff.mpr ⟨w ++ (rest ++ s), by simp, hplain w rest _ hu, ?_⟩
  intro p c q hp
  rw [Option.eq_none_iff_forall_ne_some]
  intro r hr
  -- The mark at an earlier place would lie within the text that was there before.
  obtain ⟨v, hv, hlen⟩ := hwidth _ r hr
  have hsplit : v ++ r = (c :: q ++ (w ++ rest)) ++ s := by simp [← hv]
  obtain ⟨x, hx, rfl⟩ := append_split hsplit (by simp; omega)
  have hearly : m (c :: q ++ (w ++ rest)) = some x := by
    rw [hx]
    apply hplain v (x ++ s)
    rw [← hv]
    exact hr
  rw [hfirst p c q hp] at hearly
  simp at hearly

theorem seek_before {m : Mark} {n : Nat} (hwidth : m.Width n) (hplain : m.Plain) (hpos : 0 < n)
    {t before rest : Text} (h : m.seek t = some (before, rest)) : m.seek before = none := by
  cases hearly : m.seek before with
  | none => rfl
  | some found =>
    obtain ⟨b, r⟩ := found
    obtain ⟨u, rfl, -⟩ := exists_of_seek h
    obtain ⟨v, hv, hr⟩ := exists_of_seek hearly
    obtain ⟨w, rfl, hw⟩ := hwidth v r hr
    have hmore := seek_append hwidth hplain hearly u
    rw [h, Option.some.injEq, Prod.mk.injEq] at hmore
    have hlen := congrArg List.length hv
    simp only [hmore.1, List.length_append] at hlen
    omega

end Mark

namespace Declaration

theorem plain_keyword : keyword.Plain := by
  intro w r s h
  obtain ⟨x, hw⟩ := keyword_eq_some_iff.mp h
  rw [List.append_cancel_right hw]
  exact keyword_eq_some_iff.mpr ⟨x, rfl⟩

theorem first?_eq_some_iff {t rest : Text} {d : Declaration} :
    first? t = some (d, rest) ↔ ∃ before u doc v head,
      docOpener.seek t = some (before, u) ∧ keyword.seek u = some (doc, v) ∧
        signatureEnd.seek v = some (head, rest) ∧ d = ⟨doc, head ++ [')']⟩ := by
  simp only [first?, Option.bind_eq_bind, Option.bind_eq_some_iff, Option.pure_def,
    Option.some.injEq, Prod.exists, Prod.mk.injEq]
  constructor
  · intro h
    obtain ⟨before, u, hopen, doc, v, hkey, head, w, hsig, rfl, rfl⟩ := h
    exact ⟨before, u, doc, v, head, hopen, hkey, hsig, rfl⟩
  · intro h
    obtain ⟨before, u, doc, v, head, hopen, hkey, hsig, rfl⟩ := h
    exact ⟨before, u, hopen, doc, v, hkey, head, rest, hsig, rfl, rfl⟩

theorem first?_append {t rest : Text} {d : Declaration} (h : first? t = some (d, rest)) (s : Text) :
    first? (t ++ s) = some (d, rest ++ s) := by
  obtain ⟨before, u, doc, v, head, hopen, hkey, hsig, rfl⟩ := first?_eq_some_iff.mp h
  refine first?_eq_some_iff.mpr ⟨before, u ++ s, doc, v ++ s, head, ?_, ?_, ?_, rfl⟩
  · exact Mark.seek_append (Mark.width_word _) (Mark.plain_word _) hopen s
  · exact Mark.seek_append width_keyword plain_keyword hkey s
  · exact Mark.seek_append (Mark.width_word _) (Mark.plain_word _) hsig s

theorem all_of_first? {t rest : Text} {d : Declaration} (h : first? t = some (d, rest)) :
    all t = d :: all rest := by
  rw [all]
  split <;> simp_all

theorem all_of_first?_eq_none {t : Text} (h : first? t = none) : all t = [] := by
  rw [all]
  split <;> simp_all

/-- More text is read on from the end of the last declaration, and nothing can be read there without
it. -/
theorem exists_unread (t : Text) :
    ∃ unread, unread <:+ t ∧ all unread = [] ∧ ∀ s, all (t ++ s) = all t ++ all (unread ++ s) := by
  fun_induction all t with
  | case1 t h => exact ⟨t, List.suffix_rfl, all_of_first?_eq_none h, fun s => rfl⟩
  | case2 t d rest h ih =>
    obtain ⟨unread, hunread, hnone, hall⟩ := ih
    obtain ⟨before, w, ht, -⟩ := first?_eq_some h
    have hrest : rest <:+ t := ⟨before ++ w, ht.symm⟩
    refine ⟨unread, hunread.trans hrest, hnone, ?_⟩
    intro s
    rw [all_of_first? (first?_append h s), hall s, List.cons_append]

theorem all_prefix_append (t s : Text) : all t <+: all (t ++ s) := by
  obtain ⟨unread, -, -, hall⟩ := exists_unread t
  exact ⟨all (unread ++ s), (hall s).symm⟩

/-- The declarations of the front of a text come first among those of the whole text, wherever it is
cut. The others are what a search finds from the end of the last of them on. -/
theorem all_append_keeps (p s : Text) :
    all p <+: all (p ++ s) ∧
      ∃ unread, unread <:+ p ∧ all unread = [] ∧ all (p ++ s) = all p ++ all (unread ++ s) := by
  obtain ⟨unread, hunread, hnone, hall⟩ := exists_unread p
  exact ⟨all_prefix_append p s, unread, hunread, hnone, hall s⟩

end Declaration

end DatalogDoc
