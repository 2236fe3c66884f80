import DatalogDoc.Block.Lazy
import DatalogDoc.Proofs.Naming
import DatalogDoc.Proofs.Seek

/-!
# The steps of a lazy search

Each step takes the search from one opening brace to the next. Behind a closing brace it is as if
the text began there, whatever the search met before.
-/

namespace DatalogDoc.Block

theorem lazy_of_not_mem {t : Text} (h : '{' ∉ t) : lazy t = [] := by
  have hopen : opening.seek t = none := Mark.seek_char_eq_none_iff.mpr h
  rw [lazy]
  split <;> simp_all

theorem lazy_opening {before : Text} (hb : '{' ∉ before) (inside : Text) :
    lazy (before ++ '{' :: inside) =
      match nameBefore? before with
      | none => lazy inside
      | some name =>
        match closing.seek inside with
        | none => []
        | some (body, rest) => ⟨name, body⟩ :: lazy rest := by
  have hopen : opening.seek (before ++ '{' :: inside) = some (before, inside) :=
    Mark.seek_char_eq_some_iff.mpr ⟨rfl, hb⟩
  rw [lazy]
  split
  case h_1 hnone => simp [hopen] at hnone
  case h_2 b u hsome =>
    rw [hopen, Option.some.injEq, Prod.mk.injEq] at hsome
    obtain ⟨rfl, rfl⟩ := hsome
    cases nameBefore? before with
    | none => rfl
    | some name =>
      dsimp only
      split <;> simp_all

theorem lazy_unnamed {before : Text} (hb : '{' ∉ before) (hname : nameBefore? before = none)
    (inside : Text) : lazy (before ++ '{' :: inside) = lazy inside := by
  rw [lazy_opening hb, hname]

theorem lazy_named {before name body : Text} (hb : '{' ∉ before)
    (hname : nameBefore? before = some name) (hbody : '}' ∉ body) (rest : Text) :
    lazy (before ++ '{' :: (body ++ '}' :: rest)) = ⟨name, body⟩ :: lazy rest := by
  have hclose : closing.seek (body ++ '}' :: rest) = some (body, rest) :=
    Mark.seek_char_eq_some_iff.mpr ⟨rfl, hbody⟩
  simp [lazy_opening hb, hname, hclose]

/-- A printed block is found first, if its name is proper and no closing brace cuts it short. -/
theorem lazy_print_append {b : Block} (hne : b.name ≠ []) (hchars : ∀ c ∈ b.name, isNameChar c)
    (hbody : '}' ∉ b.body) (rest : Text) : lazy (b.print ++ rest) = b :: lazy rest := by
  have hsplit : b.print ++ rest = (b.name ++ [' ']) ++ '{' :: (b.body ++ '}' :: rest) := by
    simp [print]
  rw [hsplit, lazy_named (not_mem_name_space hchars (by decide)) (nameBefore?_name_space hne hchars)
    hbody]

/-- The search starts afresh behind a character that no name holds. -/
theorem lazy_append_cons {p : Text} {c : Char} (hp : '{' ∉ p) (hc : ¬ isNameChar c) (ho : c ≠ '{')
    (t : Text) : lazy (p ++ c :: t) = lazy t := by
  have hne : '{' ≠ c := Ne.symm ho
  by_cases hmem : '{' ∈ t
  · obtain ⟨before, inside, rfl, hb⟩ := List.eq_append_cons_of_mem hmem
    have hbefore : '{' ∉ p ++ c :: before := by simp [hp, hne, hb]
    rw [← List.cons_append, ← List.append_assoc, lazy_opening hbefore, lazy_opening hb,
      nameBefore?_append_cons hc]
  · have hnone : '{' ∉ p ++ c :: t := by simp [hp, hne, hmem]
    rw [lazy_of_not_mem hmem, lazy_of_not_mem hnone]

theorem exists_lazy_append_close (p t : Text) : ∃ bs, lazy (p ++ '}' :: t) = bs ++ lazy t := by
  -- However the search cuts up what comes before, it never passes over the closing brace.
  induction hn : p.length using Nat.strongRecOn generalizing p with
  | ind n ih =>
    by_cases hmem : '{' ∈ p
    · obtain ⟨before, inside, rfl, hb⟩ := List.eq_append_cons_of_mem hmem
      rw [List.append_assoc, List.cons_append]
      cases hname : nameBefore? before with
      | none =>
        rw [lazy_unnamed hb hname]
        exact ih inside.length (by simp [← hn]; omega) inside rfl
      | some name =>
        by_cases hclose : '}' ∈ inside
        · obtain ⟨body, rest, rfl, hbody⟩ := List.eq_append_cons_of_mem hclose
          obtain ⟨bs, hbs⟩ := ih rest.length (by simp [← hn]; omega) rest rfl
          rw [List.append_assoc, List.cons_append, lazy_named hb hname hbody, hbs]
          exact ⟨⟨name, body⟩ :: bs, rfl⟩
        · rw [lazy_named hb hname hclose]
          exact ⟨[⟨name, inside⟩], rfl⟩
    · exact ⟨[], lazy_append_cons hmem (by decide) (by decide) t⟩

end DatalogDoc.Block
