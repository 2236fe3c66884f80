import DatalogDoc.Block
import Mathlib.Data.List.TakeWhile

/-!
# The name in front of a brace

The name that is read off a run of name characters is the longest such run in the whole text before
the brace, less the space that sets it off.
-/

namespace DatalogDoc.Block

/-- The longest run of name characters that ends one space before the end of the text. -/
def Names (name t : Text) : Prop :=
  ∃ p, t = p ++ name ++ [' '] ∧ name ≠ [] ∧ (∀ c ∈ name, isNameChar c) ∧
    ∀ c ∈ p.getLast?, ¬ isNameChar c

theorem isNameChar_space : isNameChar ' ' := by decide

theorem nameOfRun?_eq_some_iff {name run : Text} :
    nameOfRun? run = some name ↔ run = ' ' :: name.reverse ∧ name ≠ [] := by
  unfold nameOfRun?
  split
  case h_1 c run =>
    constructor
    · intro h
      obtain rfl := Option.some.inj h
      simp
    · intro h
      obtain ⟨h, -⟩ := h
      rw [(List.cons.inj h).2, List.reverse_reverse]
  case h_2 hrun =>
    constructor
    · intro h
      simp at h
    · intro h
      obtain ⟨rfl, hname⟩ := h
      cases hrev : name.reverse with
      | nil => exact (hname (by simpa using hrev)).elim
      | cons c run => exact (hrun c run (by rw [hrev])).elim

theorem takeWhile_eq_iff {p : Char → Bool} {t run : Text} :
    t.takeWhile p = run ↔ ∃ rest, t = run ++ rest ∧ (∀ c ∈ run, p c) ∧ ∀ c ∈ rest.head?, ¬ p c := by
  constructor
  · intro h
    subst h
    refine ⟨t.dropWhile p, List.takeWhile_append_dropWhile.symm, ?_, ?_⟩
    · intro c hc
      exact List.mem_takeWhile_imp hc
    · intro c hc
      have hhead := List.head?_dropWhile_not p t
      rw [Option.mem_def.mp hc] at hhead
      simpa using hhead
  · intro h
    obtain ⟨rest, rfl, hall, hrest⟩ := h
    rw [List.takeWhile_append_of_pos hall]
    cases rest with
    | nil => simp
    | cons c rest => simp [hrest c rfl]

theorem nameBefore?_eq_some_iff {name t : Text} :
    nameBefore? t = some name ↔ Names name t := by
  rw [nameBefore?, nameOfRun?_eq_some_iff, takeWhile_eq_iff]
  constructor
  · intro h
    obtain ⟨⟨rest, ht, hall, hrest⟩, hname⟩ := h
    refine ⟨rest.reverse, ?_, hname, ?_, ?_⟩
    · have h := congrArg List.reverse ht
      simpa using h
    · intro c hc
      exact hall c (by simp [hc])
    · rwa [List.getLast?_reverse]
  · intro h
    obtain ⟨p, rfl, hname, hall, hp⟩ := h
    refine ⟨⟨p.reverse, by simp, ?_, ?_⟩, hname⟩
    · intro c hc
      rcases List.mem_cons.mp hc with rfl | hc
      · exact isNameChar_space
      · exact hall c (List.mem_reverse.mp hc)
    · rwa [List.head?_reverse]

theorem nameBefore?_append_cons {c : Char} (hc : ¬ isNameChar c) (p t : Text) :
    nameBefore? (p ++ c :: t) = nameBefore? t := by
  have hrun : (p ++ c :: t).reverse.takeWhile isNameChar = t.reverse.takeWhile isNameChar := by
    apply takeWhile_eq_iff.mpr
    obtain ⟨rest, ht, hall, hrest⟩ := takeWhile_eq_iff.mp (rfl : t.reverse.takeWhile isNameChar = _)
    refine ⟨rest ++ c :: p.reverse, ?_, hall, ?_⟩
    · rw [← List.append_assoc, ← ht]
      simp
    · intro d hd
      cases rest with
      | nil =>
        obtain rfl : c = d := by simpa using hd
        exact hc
      | cons e rest => exact hrest d hd
  rw [nameBefore?, hrun, nameBefore?]

theorem nameBefore?_name_space {name : Text} (hne : name ≠ [])
    (hchars : ∀ c ∈ name, isNameChar c) : nameBefore? (name ++ [' ']) = some name :=
  nameBefore?_eq_some_iff.mpr ⟨[], rfl, hne, hchars, by simp⟩

theorem not_mem_name_space {name : Text} (hchars : ∀ c ∈ name, isNameChar c) {c : Char}
    (hc : ¬ isNameChar c) : c ∉ name ++ [' '] := by
  intro hmem
  rcases List.mem_append.mp hmem with hmem | hmem
  · exact hc (hchars c hmem)
  · obtain rfl := List.mem_singleton.mp hmem
    exact hc isNameChar_space

theorem takeWhile_reverse_of_lines {t : Text} (h : t = [] ∨ t.getLast? = some '\n') :
    t.reverse.takeWhile isNameChar = [] := by
  have hline : ¬ isNameChar '\n' := by decide
  rcases h with rfl | h
  · rfl
  · obtain ⟨front, rfl⟩ := List.getLast?_eq_some_iff.mp h
    simp [hline]

theorem append_name_space {p name : Text} (h : name ≠ []) :
    p ++ name ++ [' '] = p ++ name.dropLast ++ [name.getLast h, ' '] := by
  calc p ++ name ++ [' ']
      = p ++ (name.dropLast ++ [name.getLast h]) ++ [' '] := by rw [List.dropLast_concat_getLast]
    _ = p ++ name.dropLast ++ [name.getLast h, ' '] := by simp

/-- A name stands before a brace wherever a name character and a space do. -/
theorem exists_names_iff {t : Text} :
    (∃ name, Names name t) ↔ ∃ p c, t = p ++ [c, ' '] ∧ isNameChar c := by
  constructor
  · intro h
    obtain ⟨name, p, rfl, hname, hall, -⟩ := h
    exact ⟨p ++ name.dropLast, name.getLast hname, append_name_space hname,
      hall _ (List.getLast_mem hname)⟩
  · intro h
    obtain ⟨p, c, rfl, hc⟩ := h
    refine ⟨(c :: p.reverse.takeWhile isNameChar).reverse, nameBefore?_eq_some_iff.mp ?_⟩
    rw [nameBefore?, nameOfRun?_eq_some_iff]
    simp [isNameChar_space, hc]

end DatalogDoc.Block
