import DatalogDoc.Declaration
import DatalogDoc.Proofs.Spans

/-!
# The documented declarations of a text

They are read from the leftmost matches of one shape, each with the shortest doc that fits there.
-/

namespace DatalogDoc.Declaration

/-- A doc comment, a blank line, `decl` behind any one character, and a signature that ends at its
first closing parenthesis. -/
def Shape (d : Declaration) (w : Text) : Prop :=
  ∃ x head, w = "/**\n".toList ++ d.doc ++ "*/\n\n".toList ++ x :: "decl ".toList ++ d.signature ∧
    d.signature = head ++ [')'] ∧ ')' ∉ head

theorem keyword_eq_some_iff {t rest : Text} :
    keyword t = some rest ↔ ∃ x, t = "*/\n\n".toList ++ x :: "decl ".toList ++ rest := by
  simp only [keyword, Mark.andThen, Option.bind_eq_some_iff]
  constructor
  · intro h
    obtain ⟨u, ⟨v, hv, hu⟩, hrest⟩ := h
    rw [Mark.word_eq_some_iff.mp hv]
    cases v with
    | nil => simp [Mark.anyChar] at hu
    | cons x v =>
      obtain rfl : v = u := by simpa [Mark.anyChar] using hu
      exact ⟨x, by rw [Mark.word_eq_some_iff.mp hrest]; rfl⟩
  · intro h
    obtain ⟨x, rfl⟩ := h
    refine ⟨"decl ".toList ++ rest, ⟨x :: ("decl ".toList ++ rest), ?_, rfl⟩, ?_⟩
    · exact Mark.word_eq_some_iff.mpr rfl
    · exact Mark.word_eq_some_iff.mpr rfl

theorem width_keyword : keyword.Width 10 := by
  intro t rest h
  obtain ⟨x, rfl⟩ := keyword_eq_some_iff.mp h
  exact ⟨"*/\n\n".toList ++ x :: "decl ".toList, rfl, rfl⟩

theorem Shape.marks {d : Declaration} {w : Text} (h : Shape d w) (after : Text) :
    ∃ u v, docOpener (w ++ after) = some (d.doc ++ u) ∧ keyword u = some v ∧ ')' ∈ v := by
  obtain ⟨x, head, rfl, hsig, -⟩ := h
  refine ⟨"*/\n\n".toList ++ x :: "decl ".toList ++ (d.signature ++ after), d.signature ++ after,
    ?_, ?_, ?_⟩
  · rw [docOpener, Mark.word_eq_some_iff]
    simp
  · exact keyword_eq_some_iff.mpr ⟨x, rfl⟩
  · simp [hsig]

theorem Shape.keyword_behind {c : Declaration} {v : Text} (h : Shape c v)
    {t b after before rest : Text} (ht : t = b ++ v ++ after)
    (hopen : docOpener.seek t = some (before, rest)) :
    ∃ q u r, rest = q ++ c.doc ++ u ∧ keyword u = some r ∧ ')' ∈ r ∧
      b.length = before.length + q.length := by
  obtain ⟨u, r, hopener, hkey, hparen⟩ := h.marks after
  rw [List.append_assoc] at ht
  obtain ⟨q, hrest, hlen⟩ := Mark.append_of_seek (Mark.width_word _) hopen ht hopener
  exact ⟨q, u, r, by rw [hrest, List.append_assoc], hkey, hparen, hlen⟩

theorem first?_eq_some {t rest : Text} {d : Declaration} (h : first? t = some (d, rest)) :
    ∃ before w, t = before ++ w ++ rest ∧ Shape d w ∧
      ∀ b v after c, t = b ++ v ++ after → Shape c v →
        before.length ≤ b.length ∧ (b.length = before.length → d.doc.length ≤ c.doc.length) := by
  simp only [first?, Option.bind_eq_bind, Option.bind_eq_some_iff, Option.pure_def,
    Option.some.injEq, Prod.exists, Prod.mk.injEq] at h
  obtain ⟨before, t₁, hopen, doc, t₂, hkey, sig, t₃, hsig, rfl, rfl⟩ := h
  have ht : t = before ++ "/**\n".toList ++ t₁ := Mark.eq_of_seek_word hopen
  obtain ⟨u, ht₁, hu⟩ := Mark.exists_of_seek hkey
  obtain ⟨x, rfl⟩ := keyword_eq_some_iff.mp hu
  obtain ⟨ht₂, hparen⟩ := Mark.seek_char_eq_some_iff.mp hsig
  refine ⟨before, "/**\n".toList ++ doc ++ "*/\n\n".toList ++ x :: "decl ".toList ++ (sig ++ [')']),
    ?_, ⟨x, sig, rfl, rfl, hparen⟩, ?_⟩
  · rw [ht, ht₁, ht₂]
    simp
  · intro b v after c hb hv
    obtain ⟨q, u', r, hrest, hkey', -, hlen⟩ := hv.keyword_behind hb hopen
    have hdoc := Mark.length_le_of_seek hkey hrest hkey'
    rw [List.length_append] at hdoc
    refine ⟨by omega, ?_⟩
    intro hsame
    show doc.length ≤ c.doc.length
    omega

theorem first?_eq_none {t : Text} (h : first? t = none) {b v after : Text} {c : Declaration}
    (ht : t = b ++ v ++ after) : ¬ Shape c v := by
  intro hv
  cases hopen : docOpener.seek t with
  | none =>
    obtain ⟨u, r, hopener, -, -⟩ := hv.marks after
    rw [List.append_assoc] at ht
    simp [Mark.seek_eq_none_iff.mp hopen b _ ht] at hopener
  | some found =>
    obtain ⟨before, t₁⟩ := found
    obtain ⟨q, u, r, hrest, hkeyword, hparen, -⟩ := hv.keyword_behind ht hopen
    cases hkey : keyword.seek t₁ with
    | none => simp [Mark.seek_eq_none_iff.mp hkey _ u hrest] at hkeyword
    | some found =>
      obtain ⟨doc, t₂⟩ := found
      obtain ⟨q', hr, -⟩ := Mark.append_of_seek width_keyword hkey hrest hkeyword
      cases hsig : signatureEnd.seek t₂ with
      | none =>
        apply Mark.seek_char_eq_none_iff.mp hsig
        simp [hr, hparen]
      | some found => simp [first?, hopen, hkey, hsig] at h

theorem all_leftmost_from (p u : Text) :
    ∃ spans : List (Span Declaration), Leftmost Shape (p ++ u) p.length spans ∧
      (∀ s ∈ spans, ∀ r, Factor Shape (p ++ u) r → r.start = s.start →
        s.value.doc.length ≤ r.value.doc.length) ∧
      all u = spans.map Span.value := by
  fun_induction all u generalizing p with
  | case1 u hnone =>
    refine ⟨[], Leftmost.nil_of_none ?_, by simp, rfl⟩
    intro b w after c hu
    exact first?_eq_none hnone hu
  | case2 u d rest hsome ih =>
    obtain ⟨before, w, rfl, hw, hfirst⟩ := first?_eq_some hsome
    obtain ⟨spans, hspans, hshort, hall⟩ := ih (p ++ before ++ w)
    have hp : p ++ before ++ w ++ rest = p ++ (before ++ w ++ rest) := by simp
    rw [hp] at hspans hshort
    refine ⟨⟨(p ++ before).length, (p ++ before ++ w).length, d⟩ :: spans, ?_, ?_, ?_⟩
    · exact hspans.cons_of_first hw fun b v after c hb hv => (hfirst b v after c hb hv).1
    · intro s hs r hr hstart
      rcases List.mem_cons.mp hs with rfl | hs
      · simp only [List.length_append] at hstart
        obtain ⟨b, v, after, hb, hrb, hv⟩ := hr.of_append (by omega)
        exact (hfirst b v after r.value hb hv).2 (by omega)
      · exact hshort s hs r hr hstart
    · rw [List.map_cons, hall]

/-- The declarations are those of the leftmost factors without overlap, each with the shortest doc
of a factor that starts there. -/
theorem all_spans (t : Text) :
    ∃ spans : List (Span Declaration), Leftmost Shape t 0 spans ∧
      (∀ s ∈ spans, ∀ r, Factor Shape t r → r.start = s.start →
        s.value.doc.length ≤ r.value.doc.length) ∧
      all t = spans.map Span.value :=
  all_leftmost_from [] t

/-- A doc runs over a closer that no declaration follows, and the next opener. -/
example : all "/**\na*/\n/**\nb*/\n\n.decl C(x)".toList =
    [⟨"a*/\n/**\nb".toList, "C(x)".toList⟩] := by cbv

end DatalogDoc.Declaration
