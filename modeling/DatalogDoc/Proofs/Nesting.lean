import DatalogDoc.Lexeme
import Mathlib.Data.List.Induction

/-!
# Braces among lexemes

Which braces balance is said by a grammar. Counting open braces decides it, and a text with braces
left open has one outermost among them.
-/

namespace DatalogDoc.Lexeme

/-- Lexemes whose braces pair up. -/
inductive Nested : List Lexeme → Prop
  | nil : Nested []
  | plain {l : Lexeme} {ls : List Lexeme} :
      l ≠ code '{' → l ≠ code '}' → Nested ls → Nested (l :: ls)
  | block {inner ls : List Lexeme} :
      Nested inner → Nested ls → Nested (code '{' :: inner ++ code '}' :: ls)

/-- Some closing brace balances the opening brace in front of these lexemes. -/
def Closed (ls : List Lexeme) : Prop :=
  ∃ inner rest, ls = inner ++ code '}' :: rest ∧ Nested inner

def BracesClosed (ls : List Lexeme) : Prop :=
  ∀ outer inner, ls = outer ++ code '{' :: inner → Closed inner

/-- The number of open braces behind one more lexeme. A closing brace outside every block means
nothing. -/
def depthBehind (depth : Nat) (l : Lexeme) : Nat :=
  if l = code '{' then depth + 1 else if l = code '}' then depth - 1 else depth

def depth (ls : List Lexeme) : Nat := ls.foldl depthBehind 0

/-- The number of braces open inside a block behind one more lexeme, as long as the block is open. -/
def levelBehind (level : Nat) (l : Lexeme) : Option Nat :=
  if l = code '{' then some (level + 1)
  else if l = code '}' then if level = 0 then none else some (level - 1)
  else some level

def level (ls : List Lexeme) : Option Nat := ls.foldlM levelBehind 0

@[simp] theorem depth_nil : depth [] = 0 := rfl

theorem depth_append (ls ks : List Lexeme) :
    depth (ls ++ ks) = ks.foldl depthBehind (depth ls) := List.foldl_append

theorem depth_concat (ls : List Lexeme) (l : Lexeme) :
    depth (ls ++ [l]) = depthBehind (depth ls) l := depth_append ls [l]

theorem level_append (ls ks : List Lexeme) :
    level (ls ++ ks) = (level ls).bind fun n => ks.foldlM levelBehind n := List.foldlM_append

theorem level_concat (ls : List Lexeme) (l : Lexeme) :
    level (ls ++ [l]) = (level ls).bind fun n => levelBehind n l := by
  simp [level_append]

theorem levelBehind_eq_none_iff {n : Nat} {l : Lexeme} :
    levelBehind n l = none ↔ l = code '}' ∧ n = 0 := by
  unfold levelBehind
  split_ifs <;> simp_all

theorem nested_levelBehind {ls : List Lexeme} (h : Nested ls) (n : Nat) :
    ls.foldlM levelBehind n = some n := by
  induction h generalizing n with
  | nil => rfl
  | plain ho hc _ ih => simp [levelBehind, ho, hc, ih]
  | block _ _ ihi ihl => simp [levelBehind, ihi, ihl]

theorem nested_level {ls : List Lexeme} (h : Nested ls) : level ls = some 0 :=
  nested_levelBehind h 0

private inductive Closing : Nat → List Lexeme → Prop
  | zero {ls : List Lexeme} : Nested ls → Closing 0 ls
  | succ {n : Nat} {inner ls : List Lexeme} :
      Nested inner → Closing n ls → Closing (n + 1) (inner ++ code '}' :: ls)

private theorem Closing.plain {n : Nat} {l : Lexeme} {ls : List Lexeme}
    (ho : l ≠ code '{') (hc : l ≠ code '}') (h : Closing n ls) : Closing n (l :: ls) := by
  cases h with
  | zero h => exact .zero (.plain ho hc h)
  | succ hi h => exact .succ (.plain ho hc hi) h

private theorem Closing.block {n : Nat} {inner ls : List Lexeme} (hi : Nested inner)
    (h : Closing n ls) : Closing n (code '{' :: inner ++ code '}' :: ls) := by
  cases h with
  | zero h => exact .zero (.block hi h)
  | @succ n next ls hn h =>
    have hb : Nested (code '{' :: inner ++ code '}' :: next) := .block hi hn
    simpa using Closing.succ hb h

private theorem closing_of_level {ls : List Lexeme} {n : Nat}
    (h : ls.foldlM levelBehind n = some 0) : Closing n ls := by
  induction ls generalizing n with
  | nil =>
    obtain rfl : n = 0 := by simpa using h
    exact .zero .nil
  | cons l ls ih =>
    by_cases ho : l = code '{'
    · subst ho
      have hl : Closing (n + 1) ls := ih (by simpa [levelBehind] using h)
      cases hl with
      | succ hi hl => exact .block hi hl
    · by_cases hc : l = code '}'
      · subst hc
        cases n with
        | zero => simp [levelBehind] at h
        | succ n =>
          have hl : Closing n ls := ih (by simpa [levelBehind] using h)
          exact .succ .nil hl
      · exact .plain ho hc (ih (by simpa [levelBehind, ho, hc] using h))

theorem nested_of_level {ls : List Lexeme} (h : level ls = some 0) : Nested ls := by
  cases closing_of_level h with
  | zero h => exact h

theorem level_eq_none_iff {ls : List Lexeme} : level ls = none ↔ Closed ls := by
  constructor
  · intro h
    induction ls using List.reverseRecOn with
    | nil => simp [level] at h
    | append_singleton ls l ih =>
      cases hn : level ls with
      | none =>
        obtain ⟨inner, rest, rfl, hi⟩ := ih hn
        exact ⟨inner, rest ++ [l], by simp, hi⟩
      | some n =>
        rw [level_concat, hn] at h
        obtain ⟨rfl, rfl⟩ := levelBehind_eq_none_iff.mp h
        exact ⟨ls, [], rfl, nested_of_level hn⟩
  · intro h
    obtain ⟨inner, rest, rfl, hi⟩ := h
    rw [level_append, nested_level hi]
    rfl

theorem not_closed_of_append {ls ks : List Lexeme} (h : ¬ Closed (ls ++ ks)) : ¬ Closed ls := by
  intro hclosed
  obtain ⟨inner, rest, rfl, hi⟩ := hclosed
  exact h ⟨inner, rest ++ ks, by simp, hi⟩

theorem not_closed_of_level {ls : List Lexeme} {n : Nat} (h : level ls = some n) : ¬ Closed ls := by
  rw [← level_eq_none_iff, h]
  simp

theorem exists_level {ls : List Lexeme} (h : ¬ Closed ls) : ∃ n, level ls = some n := by
  rw [← level_eq_none_iff] at h
  exact Option.ne_none_iff_exists'.mp h

private theorem depthBehind_of_level {ls : List Lexeme} {n m : Nat}
    (h : ls.foldlM levelBehind n = some m) (k : Nat) :
    ls.foldl depthBehind (k + n) = k + m := by
  induction ls generalizing n with
  | nil =>
    obtain rfl : n = m := by simpa using h
    rfl
  | cons l ls ih =>
    rw [List.foldl_cons]
    by_cases ho : l = code '{'
    · subst ho
      exact ih (n := n + 1) (by simpa [levelBehind] using h)
    · by_cases hc : l = code '}'
      · subst hc
        cases n with
        | zero => simp [levelBehind] at h
        | succ n => exact ih (n := n) (by simpa [levelBehind] using h)
      · simp only [depthBehind, ho, hc, if_false]
        exact ih (by simpa [levelBehind, ho, hc] using h)

theorem depth_block (outer : List Lexeme) {inner : List Lexeme} {n : Nat}
    (h : level inner = some n) :
    depth (outer ++ code '{' :: inner) = depth outer + 1 + n := by
  rw [depth_append, List.foldl_cons]
  exact depthBehind_of_level h (depth outer + 1)

theorem depth_pos_of_not_closed (outer : List Lexeme) {inner : List Lexeme} (h : ¬ Closed inner) :
    0 < depth (outer ++ code '{' :: inner) := by
  obtain ⟨n, hn⟩ := exists_level h
  rw [depth_block outer hn]
  omega

theorem exists_outermost {ls : List Lexeme} (h : 0 < depth ls) :
    ∃ outer inner, ls = outer ++ code '{' :: inner ∧ depth outer = 0 ∧ ¬ Closed inner := by
  induction ls using List.reverseRecOn with
  | nil => simp at h
  | append_singleton ls l ih =>
    by_cases hd : depth ls = 0
    · -- Only an opening brace leads from depth zero to a greater one.
      have hl : l = code '{' := by
        by_contra ho
        simp [depth_concat, hd, depthBehind, ho] at h
      refine ⟨ls, [], by rw [hl], hd, ?_⟩
      intro hclosed
      obtain ⟨inner, rest, hnil, -⟩ := hclosed
      simp at hnil
    · obtain ⟨outer, inner, rfl, ho, hi⟩ := ih (by omega)
      refine ⟨outer, inner ++ [l], by simp, ho, ?_⟩
      obtain ⟨n, hn⟩ := exists_level hi
      have hdepth : depth (outer ++ code '{' :: inner) = 1 + n := by
        rw [depth_block outer hn, ho, Nat.zero_add]
      intro hclosed
      rw [← level_eq_none_iff, level_concat, hn] at hclosed
      obtain ⟨rfl, rfl⟩ := levelBehind_eq_none_iff.mp hclosed
      rw [depth_concat, hdepth] at h
      simp [depthBehind] at h

theorem bracesClosed_iff {ls : List Lexeme} : BracesClosed ls ↔ depth ls = 0 := by
  constructor
  · intro h
    by_contra hd
    obtain ⟨outer, inner, hls, -, hi⟩ := exists_outermost (Nat.pos_of_ne_zero hd)
    exact hi (h outer inner hls)
  · intro h outer inner hls
    by_contra hi
    have hpos := depth_pos_of_not_closed outer hi
    rw [← hls] at hpos
    omega

theorem outer_lt_outermost {outer inner outer' inner' : List Lexeme}
    (h : outer ++ code '{' :: inner = outer' ++ code '{' :: inner')
    (hi : ¬ Closed inner) (ho' : depth outer' = 0) :
    outer = outer' ∨ ∃ mid, outer = outer' ++ code '{' :: mid := by
  rcases List.append_eq_append_iff.mp h with ⟨a, ha, hb⟩ | ⟨a, ha, hb⟩
  · cases a with
    | nil => exact .inl (by simpa using ha.symm)
    | cons l a =>
      -- Such a block would stand inside the open one, where the depth is positive.
      obtain ⟨rfl, rfl⟩ := List.cons.inj hb
      have hpos := depth_pos_of_not_closed outer (not_closed_of_append hi)
      rw [← ha] at hpos
      omega
  · cases a with
    | nil => exact .inl (by simpa using ha)
    | cons l a =>
      obtain ⟨rfl, -⟩ := List.cons.inj hb
      exact .inr ⟨a, ha⟩

theorem outermost_unique {outer inner outer' inner' : List Lexeme}
    (h : outer ++ code '{' :: inner = outer' ++ code '{' :: inner')
    (hd : depth outer = 0) (hi : ¬ Closed inner) (hd' : depth outer' = 0) (hi' : ¬ Closed inner') :
    outer = outer' ∧ inner = inner' := by
  rcases outer_lt_outermost h hi hd' with rfl | ⟨mid, rfl⟩
  · exact ⟨rfl, by simpa using h⟩
  · have hinner : inner' = mid ++ code '{' :: inner := by simpa using h.symm
    rw [hinner] at hi'
    have hpos := depth_pos_of_not_closed outer' (not_closed_of_append hi')
    omega

end DatalogDoc.Lexeme
