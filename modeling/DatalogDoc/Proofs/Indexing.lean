import DatalogDoc.Proofs.Naming
import Mathlib.Data.List.Basic
import Mathlib.Data.List.Induction

/-!
# Names by index

The name in front of a brace, found by going back over the indices of a text. Every index and every
difference of indices is checked, and without an outcome one of them is out of range.
-/

namespace DatalogDoc.Stepping

def sub? (a b : Nat) : Option Nat := if b ≤ a then some (a - b) else none

def slice? (t : Text) (first last : Nat) : Option Text :=
  if first ≤ last ∧ last ≤ t.length then some ((t.take last).drop first) else none

/-- Goes back from an index over name characters, down to a limit at most. -/
def nameStart? (t : Text) (limit : Nat) : Nat → Option Nat
  | 0 => some 0
  | i + 1 =>
    if limit < i + 1 then
      t[i]?.bind fun c => if Block.isNameChar c then nameStart? t limit i else some (i + 1)
    else some (i + 1)

def nameAt? (t : Text) (limit opener : Nat) : Option (Option Text) :=
  if opener < limit + 2 then some none
  else
    (sub? opener 1).bind fun last => t[last]?.bind fun c =>
      if c = ' ' then
        (nameStart? t limit last).bind fun first =>
          if first < last then (slice? t first last).map some else some none
      else some none

theorem nameStart?_append (limit : Nat) (read rest : Text) :
    nameStart? (read ++ rest) limit read.length =
      some (read.length - ((read.drop limit).reverse.takeWhile Block.isNameChar).length) := by
  induction read using List.reverseRecOn generalizing rest with
  | nil => simp [nameStart?]
  | append_singleton read c ih =>
    rw [List.length_append, List.length_singleton, nameStart?]
    by_cases hlimit : limit < read.length + 1
    · have hchar : (read ++ [c] ++ rest)[read.length]? = some c := by simp
      have hdrop : (read ++ [c]).drop limit = read.drop limit ++ [c] :=
        List.drop_append_of_le_length (by omega)
      rw [if_pos hlimit, hchar, Option.bind_some, hdrop, List.reverse_concat, List.takeWhile_cons]
      by_cases hc : Block.isNameChar c
      · rw [if_pos hc, if_pos hc, List.append_assoc, ih, List.length_cons]
        congr 1
        omega
      · rw [if_neg hc, if_neg hc]
        rfl
    · have hdrop : (read ++ [c]).drop limit = [] := List.drop_eq_nil_of_le (by simp; omega)
      rw [if_neg hlimit, hdrop]
      rfl

theorem nameOfRun?_of_length_le_one {run : Text} (h : run.length ≤ 1) :
    Block.nameOfRun? run = none := by
  unfold Block.nameOfRun?
  split
  case h_1 => simp at h
  case h_2 => rfl

theorem nameOfRun?_of_ne_space {c : Char} (h : c ≠ ' ') (t : Text) :
    Block.nameOfRun? ((c :: t).takeWhile Block.isNameChar) = none := by
  rw [List.takeWhile_cons]
  split
  · unfold Block.nameOfRun?
    split <;> simp_all
  · rfl

theorem slice?_nameStart (limit : Nat) (read rest : Text) :
    let run := (read.drop limit).reverse.takeWhile Block.isNameChar
    slice? (read ++ rest) (read.length - run.length) read.length = some run.reverse := by
  intro run
  have hrun : run.reverse <:+ read.drop limit := by
    have hprefix := List.takeWhile_prefix (l := (read.drop limit).reverse) Block.isNameChar
    rw [← List.reverse_suffix, List.reverse_reverse] at hprefix
    exact hprefix
  have hsuffix : run.reverse <:+ read := hrun.trans (List.drop_suffix limit read)
  have hdrop := List.suffix_iff_eq_drop.mp hsuffix
  rw [List.length_reverse] at hdrop
  rw [slice?, if_pos (by simp), List.take_left, ← hdrop]

/-- The indices are in range, and the name is the one that the run of name characters gives. -/
theorem nameAt?_append (limit : Nat) (read rest : Text) :
    nameAt? (read ++ rest) limit read.length =
      some (Block.nameOfRun? ((read.drop limit).reverse.takeWhile Block.isNameChar)) := by
  by_cases hlimit : read.length < limit + 2
  · have hdrop : (read.drop limit).length ≤ 1 := by
      rw [List.length_drop]
      omega
    have hrun := (List.takeWhile_prefix (l := (read.drop limit).reverse) Block.isNameChar).length_le
    rw [List.length_reverse] at hrun
    rw [nameAt?, if_pos hlimit, nameOfRun?_of_length_le_one (hrun.trans hdrop)]
  · rw [nameAt?, if_neg hlimit]
    rcases List.eq_nil_or_concat' read with rfl | ⟨read, c, rfl⟩
    · simp at hlimit
    · have hlast : sub? (read ++ [c]).length 1 = some read.length := by simp [sub?]
      have hchar : (read ++ [c] ++ rest)[read.length]? = some c := by simp
      have hdrop : (read ++ [c]).drop limit = read.drop limit ++ [c] := by
        rw [List.length_append, List.length_singleton] at hlimit
        exact List.drop_append_of_le_length (by omega)
      rw [hlast, Option.bind_some, hchar, Option.bind_some, hdrop, List.reverse_concat]
      by_cases hc : c = ' '
      · subst hc
        rw [if_pos rfl, List.append_assoc, nameStart?_append, Option.bind_some, slice?_nameStart,
          List.takeWhile_cons_of_pos Block.isNameChar_space]
        cases hrun : (read.drop limit).reverse.takeWhile Block.isNameChar with
        | nil => simp [Block.nameOfRun?]
        | cons d run =>
          have hpos : 0 < read.length := by
            rw [List.length_append, List.length_singleton] at hlimit
            omega
          rw [if_pos (by simp only [List.length_cons]; omega)]
          rfl
      · rw [if_neg hc, nameOfRun?_of_ne_space hc]

end DatalogDoc.Stepping
