/-!
# Texts and marks

A text is the list of its code points. A mark is a shape that can stand at the front of a text;
`Mark.seek` finds the first place where one stands.
-/

namespace DatalogDoc

abbrev Text := List Char

/-- Reads at the front of a text and gives what follows, or nothing where it does not stand. -/
abbrev Mark := Text → Option Text

namespace Mark

def word (w : Text) : Mark := fun t => w.isPrefixOf? t

def anyChar : Mark
  | [] => none
  | _ :: t => some t

def andThen (m n : Mark) : Mark := fun t => (m t).bind n

/-- A mark that takes at least one character wherever it stands. -/
def Consuming (m : Mark) : Prop := ∀ t rest, m t = some rest → rest.length < t.length

theorem length_of_word {w t rest : Text} (h : word w t = some rest) :
    t.length = w.length + rest.length := by
  induction w generalizing t with
  | nil =>
    obtain rfl := Option.some.inj h
    exact (Nat.zero_add _).symm
  | cons c w ih =>
    cases t with
    | nil => cases h
    | cons d t =>
      change (if c == d then word w t else none) = some rest at h
      split at h
      · have hlen := ih h
        simp only [List.length_cons]
        omega
      · cases h

theorem consuming_word {w : Text} (h : w ≠ []) : (word w).Consuming := by
  intro t rest ht
  have hpos := List.length_pos_iff.mpr h
  have hlen := length_of_word ht
  omega

theorem consuming_anyChar : anyChar.Consuming := by
  intro t rest ht
  cases t with
  | nil => simp [anyChar] at ht
  | cons c t =>
    simp only [anyChar, Option.some.injEq] at ht
    simp [ht]

theorem Consuming.andThen {m n : Mark} (hm : m.Consuming) (hn : n.Consuming) :
    (m.andThen n).Consuming := by
  intro t rest ht
  simp only [Mark.andThen, Option.bind_eq_some_iff] at ht
  obtain ⟨u, hu, hr⟩ := ht
  exact Nat.lt_trans (hn u rest hr) (hm t u hu)

/-- Parts a text at the first place where the mark stands: what comes before it and what follows. -/
def seek (m : Mark) : Text → Option (Text × Text)
  | [] => (m []).map fun rest => ([], rest)
  | c :: t =>
    match m (c :: t) with
    | some rest => some ([], rest)
    | none => (seek m t).map fun (before, rest) => (c :: before, rest)

theorem exists_of_seek {m : Mark} {t before rest : Text} (h : m.seek t = some (before, rest)) :
    ∃ u, t = before ++ u ∧ m u = some rest := by
  induction t generalizing before with
  | nil =>
    obtain ⟨u, hu, he⟩ := Option.map_eq_some_iff.mp h
    simp only [Prod.mk.injEq] at he
    exact ⟨[], by simp [← he.1], he.2 ▸ hu⟩
  | cons c t ih =>
    simp only [seek] at h
    split at h
    case h_1 u hu =>
      simp only [Option.some.injEq, Prod.mk.injEq] at h
      exact ⟨c :: t, by simp [← h.1], h.2 ▸ hu⟩
    case h_2 =>
      obtain ⟨⟨b, r⟩, hs, he⟩ := Option.map_eq_some_iff.mp h
      simp only [Prod.mk.injEq] at he
      obtain ⟨u, hu, hr⟩ := ih (he.2 ▸ hs)
      exact ⟨u, by simp [← he.1, hu], hr⟩

theorem length_lt_of_seek {m : Mark} (hm : m.Consuming) {t before rest : Text}
    (h : m.seek t = some (before, rest)) : rest.length < t.length := by
  obtain ⟨u, hu, hr⟩ := exists_of_seek h
  have hlt := hm u rest hr
  rw [hu, List.length_append]
  omega

end Mark

end DatalogDoc
