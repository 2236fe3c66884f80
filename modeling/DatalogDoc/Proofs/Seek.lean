import DatalogDoc.Text
import Mathlib.Data.List.Infix

/-!
# Where a mark stands first

A search stops at the first place where its mark stands, and fails only where the mark stands
nowhere.
-/

namespace DatalogDoc

/-- Of two ways to part a text, the longer front piece goes on where the shorter one ends. -/
theorem append_split {x y a b : Text} (h : x ++ y = a ++ b) (hlen : x.length ≤ a.length) :
    ∃ q, a = x ++ q ∧ y = q ++ b := by
  rcases List.append_eq_append_iff.mp h with ⟨q, ha, hy⟩ | ⟨q, hx, hb⟩
  · exact ⟨q, ha, hy⟩
  · obtain rfl : q = [] := by
      apply List.eq_nil_of_length_eq_zero
      rw [hx, List.length_append] at hlen
      omega
    exact ⟨[], by simpa using hx.symm, by simpa using hb.symm⟩

namespace Mark

theorem word_eq_some_iff {w t rest : Text} : word w t = some rest ↔ t = w ++ rest :=
  List.isPrefixOf?_eq_some_iff_append_eq.trans eq_comm

theorem eq_of_seek_word {w t before rest : Text} (h : (word w).seek t = some (before, rest)) :
    t = before ++ w ++ rest := by
  obtain ⟨u, hu, hr⟩ := exists_of_seek h
  rw [hu, word_eq_some_iff.mp hr, List.append_assoc]

theorem seek_eq_none_iff {m : Mark} {t : Text} :
    m.seek t = none ↔ ∀ p u, t = p ++ u → m u = none := by
  induction t with
  | nil => simp [seek]
  | cons c t ih =>
    constructor
    · intro h p u hu
      cases hm : m (c :: t) with
      | some rest => simp [seek, hm] at h
      | none =>
        have ht : m.seek t = none := by simpa [seek, hm] using h
        cases p with
        | nil => rw [← hm, hu, List.nil_append]
        | cons d p =>
          rw [List.cons_append, List.cons.injEq] at hu
          exact ih.mp ht p u hu.2
    · intro h
      have hm : m (c :: t) = none := h [] (c :: t) rfl
      have ht : m.seek t = none := by
        apply ih.mpr
        intro p u hu
        exact h (c :: p) u (by rw [hu, List.cons_append])
      simp [seek, hm, ht]

theorem seek_eq_some_iff {m : Mark} {t before rest : Text} :
    m.seek t = some (before, rest) ↔ ∃ u, t = before ++ u ∧ m u = some rest ∧
      ∀ p c q, before = p ++ c :: q → m (c :: q ++ u) = none := by
  induction t generalizing before with
  | nil =>
    cases before with
    | nil => simp [seek]
    | cons c before => simp [seek]
  | cons d t ih =>
    cases hm : m (d :: t) with
    | some found =>
      simp only [seek, hm, Option.some.injEq, Prod.mk.injEq]
      constructor
      · intro h
        obtain ⟨rfl, rfl⟩ := h
        exact ⟨d :: t, rfl, hm, by simp⟩
      · intro h
        obtain ⟨u, hu, hr, hfirst⟩ := h
        cases before with
        | nil => exact ⟨rfl, Option.some.inj (by rw [← hm, ← hr, hu, List.nil_append])⟩
        | cons c before =>
          have hnone := hfirst [] c before rfl
          rw [← hu, hm] at hnone
          simp at hnone
    | none =>
      simp only [seek, hm, Option.map_eq_some_iff, Prod.exists, Prod.mk.injEq]
      constructor
      · intro h
        obtain ⟨b, r, hs, rfl, rfl⟩ := h
        obtain ⟨u, hu, hr, hfirst⟩ := ih.mp hs
        refine ⟨u, by rw [hu, List.cons_append], hr, ?_⟩
        intro p c q hp
        cases p with
        | nil =>
          obtain ⟨rfl, rfl⟩ := List.cons.inj hp
          rw [List.cons_append, ← hu, hm]
        | cons e p => exact hfirst p c q (List.cons.inj hp).2
      · intro h
        obtain ⟨u, hu, hr, hfirst⟩ := h
        cases before with
        | nil =>
          rw [List.nil_append] at hu
          rw [← hu, hm] at hr
          simp at hr
        | cons c before =>
          obtain ⟨rfl, ht⟩ := List.cons.inj hu
          refine ⟨before, rest, ih.mpr ⟨u, ht, hr, ?_⟩, rfl, rfl⟩
          intro p e q hp
          exact hfirst (d :: p) e q (by rw [hp, List.cons_append])

theorem length_le_of_seek {m : Mark} {t before rest : Text} (h : m.seek t = some (before, rest))
    {b v r : Text} (ht : t = b ++ v) (hv : m v = some r) : before.length ≤ b.length := by
  obtain ⟨u, rfl, -, hfirst⟩ := seek_eq_some_iff.mp h
  by_contra hlen
  obtain ⟨q, rfl, rfl⟩ := append_split ht.symm (by omega)
  cases q with
  | nil => simp at hlen
  | cons c q =>
    rw [hfirst b c q rfl] at hv
    simp at hv

def Width (m : Mark) (n : Nat) : Prop :=
  ∀ t rest, m t = some rest → ∃ w, t = w ++ rest ∧ w.length = n

theorem width_word (w : Text) : (word w).Width w.length := by
  intro t rest h
  exact ⟨w, word_eq_some_iff.mp h, rfl⟩

theorem append_of_seek {m : Mark} {n : Nat} (hm : m.Width n) {t before rest : Text}
    (h : m.seek t = some (before, rest)) {b v r : Text} (ht : t = b ++ v) (hv : m v = some r) :
    ∃ q, rest = q ++ r ∧ b.length = before.length + q.length := by
  have hlen := length_le_of_seek h ht hv
  obtain ⟨u, hu, hrest⟩ := exists_of_seek h
  obtain ⟨w, rfl, hw⟩ := hm u rest hrest
  obtain ⟨w', rfl, hw'⟩ := hm v r hv
  rw [hu, ← List.append_assoc, ← List.append_assoc] at ht
  obtain ⟨q, hb, hr⟩ := append_split ht (by simp only [List.length_append]; omega)
  refine ⟨q, hr, ?_⟩
  have hsum := congrArg List.length hb
  simp only [List.length_append] at hsum
  omega

theorem word_eq_none_iff {w t : Text} : word w t = none ↔ ¬ w <+: t := by
  rw [Option.eq_none_iff_forall_ne_some]
  constructor
  · intro h hprefix
    obtain ⟨u, rfl⟩ := hprefix
    exact h u (word_eq_some_iff.mpr rfl)
  · intro h u hu
    exact h ⟨u, (word_eq_some_iff.mp hu).symm⟩

theorem seek_word_eq_none_iff {w t : Text} : (word w).seek t = none ↔ ¬ w <:+: t := by
  rw [seek_eq_none_iff]
  constructor
  · intro h hinfix
    obtain ⟨p, q, rfl⟩ := hinfix
    exact word_eq_none_iff.mp (h p (w ++ q) (List.append_assoc p w q)) ⟨q, rfl⟩
  · intro h p u ht
    rw [word_eq_none_iff]
    intro hprefix
    obtain ⟨q, rfl⟩ := hprefix
    exact h ⟨p, q, by rw [ht, List.append_assoc]⟩

theorem seek_char_eq_none_iff {c : Char} {t : Text} : (word [c]).seek t = none ↔ c ∉ t := by
  rw [seek_word_eq_none_iff, List.singleton_infix_iff]

theorem not_infix_of_seek_word {w t before rest : Text} (hw : w ≠ [])
    (h : (word w).seek t = some (before, rest)) : ¬ w <:+: before := by
  intro hinfix
  obtain ⟨p, q, hpq⟩ := hinfix
  have ht : t = p ++ (w ++ (q ++ w ++ rest)) := by
    rw [eq_of_seek_word h, ← hpq]
    simp
  have hle := length_le_of_seek h ht (word_eq_some_iff.mpr rfl)
  have hpos := List.length_pos_iff.mpr hw
  simp only [← hpq, List.length_append] at hle
  omega

theorem seek_word_of_not_prefix {w before : Text} (rest : Text)
    (h : ∀ p c q, before = p ++ c :: q → ¬ w <+: c :: (q ++ (w ++ rest))) :
    (word w).seek (before ++ (w ++ rest)) = some (before, rest) := by
  apply seek_eq_some_iff.mpr
  refine ⟨w ++ rest, rfl, word_eq_some_iff.mpr rfl, ?_⟩
  intro p c q hp
  exact word_eq_none_iff.mpr (h p c q hp)

theorem seek_char_eq_some_iff {c : Char} {t before rest : Text} :
    (word [c]).seek t = some (before, rest) ↔ t = before ++ c :: rest ∧ c ∉ before := by
  constructor
  · intro h
    have hc := not_infix_of_seek_word (by simp) h
    rw [List.singleton_infix_iff] at hc
    exact ⟨by simpa using eq_of_seek_word h, hc⟩
  · intro h
    obtain ⟨rfl, hc⟩ := h
    apply seek_word_of_not_prefix
    intro p d q hp
    rw [List.cons_prefix_cons]
    intro hprefix
    simp [hp, hprefix.1] at hc

end Mark

end DatalogDoc
