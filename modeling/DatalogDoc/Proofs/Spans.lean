import DatalogDoc.Proofs.Seek

/-!
# Leftmost matches without overlap

A search takes the matches of a shape from left to right, each at the first index where one starts
at or behind the end of the one before.
-/

namespace DatalogDoc

/-- A part of a text, from one index up to another, and what it was read as. -/
structure Span (α : Type) where
  start : Nat
  stop : Nat
  value : α

variable {α : Type} (shape : α → Text → Prop)

def Factor (t : Text) (s : Span α) : Prop :=
  ∃ before w after, t = before ++ w ++ after ∧ s.start = before.length ∧
    s.stop = before.length + w.length ∧ shape s.value w

/-- The spans that a search from index `i` on takes. -/
inductive Leftmost (t : Text) : Nat → List (Span α) → Prop
  | nil {i : Nat} : (∀ r, Factor shape t r → r.start < i) → Leftmost t i []
  | cons {i : Nat} {s : Span α} {spans : List (Span α)} :
      Factor shape t s → i ≤ s.start →
      (∀ r, Factor shape t r → i ≤ r.start → s.start ≤ r.start) →
      Leftmost t s.stop spans → Leftmost t i (s :: spans)

variable {shape}

theorem Factor.of_append {p u : Text} {s : Span α} (h : Factor shape (p ++ u) s)
    (hs : p.length ≤ s.start) :
    ∃ b w after, u = b ++ w ++ after ∧ s.start = p.length + b.length ∧ shape s.value w := by
  obtain ⟨before, w, after, ht, hstart, -, hw⟩ := h
  rw [List.append_assoc] at ht
  obtain ⟨b, rfl, hu⟩ := append_split ht (by omega)
  exact ⟨b, w, after, by rw [hu, List.append_assoc], by simp [hstart], hw⟩

theorem Leftmost.nil_of_none {p u : Text}
    (h : ∀ b w after a, u = b ++ w ++ after → ¬ shape a w) :
    Leftmost shape (p ++ u) p.length [] := by
  apply Leftmost.nil
  intro r hr
  by_contra hlt
  obtain ⟨b, w, after, hu, -, hw⟩ := hr.of_append (Nat.le_of_not_lt hlt)
  exact h b w after r.value hu hw

theorem Leftmost.cons_of_first {p before w rest : Text} {a : α} {spans : List (Span α)}
    (hw : shape a w)
    (hfirst : ∀ b v after c, before ++ w ++ rest = b ++ v ++ after → shape c v →
      before.length ≤ b.length)
    (h : Leftmost shape (p ++ (before ++ w ++ rest)) (p ++ before ++ w).length spans) :
    Leftmost shape (p ++ (before ++ w ++ rest)) p.length
      (⟨(p ++ before).length, (p ++ before ++ w).length, a⟩ :: spans) := by
  refine .cons ⟨p ++ before, w, rest, by simp, rfl, by simp [Nat.add_assoc], hw⟩ (by simp) ?_ h
  intro r hr hstart
  obtain ⟨b, v, after, hu, hb, hv⟩ := hr.of_append hstart
  have hle := hfirst b v after r.value hu hv
  simp only [List.length_append, hb]
  omega

theorem Leftmost.skip {t : Text} {i j : Nat} {spans : List (Span α)} (hij : i ≤ j)
    (hnone : ∀ r, Factor shape t r → i ≤ r.start → j ≤ r.start) (h : Leftmost shape t j spans) :
    Leftmost shape t i spans := by
  cases h with
  | nil hend =>
    apply Leftmost.nil
    intro r hr
    by_contra hlt
    have hj := hnone r hr (Nat.le_of_not_lt hlt)
    have hlt' := hend r hr
    omega
  | cons hs hstart hfirst hrest =>
    refine .cons hs (Nat.le_trans hij hstart) ?_ hrest
    intro r hr hi
    exact hfirst r hr (hnone r hr hi)

end DatalogDoc
