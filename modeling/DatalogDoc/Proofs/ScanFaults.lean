import DatalogDoc.Proofs.BalancedBlocks

/-!
# The fault that a balanced scan reports

A comment or string without its end is reported first, at its first character. Otherwise the
outermost brace left open is reported.
-/

namespace DatalogDoc

/-- The place behind a text: one line more than it has newlines, and one column more than it has
characters behind the last of them. -/
def Location.behind (t : Text) : Location :=
  ⟨1 + t.count '\n', 1 + (t.reverse.takeWhile (· ≠ '\n')).length⟩

theorem Location.start_after (t : Text) : start.after t = behind t := by
  induction t using List.reverseRecOn with
  | nil => rfl
  | append_singleton t c ih =>
    rw [after_append, ih]
    by_cases hc : c = '\n'
    · simp [hc, behind, next, Nat.add_assoc]
    · simp [hc, behind, next, Nat.add_comm]

theorem Fault.message_injective {f g : Fault} (h : f.message = g.message) : f = g := by
  cases f <;> cases g <;> first | rfl | (exfalso; revert h; decide)

namespace Block

open Lexeme

/-- The first lexeme of the cut that lacks its end, with what is said of it and where it starts. -/
def FirstFault (t message : Text) (place : Location) : Prop :=
  ∃ pre l post u, Cut t (pre ++ l :: post) ∧ Terminated pre ∧
    (l = openComment u ∧ message = "Unterminated block comment".toList ∨
      l = openString u ∧ message = "Unterminated string literal".toList) ∧
    place = Location.behind (pre.flatMap text)

/-- The brace left open that stands outside every other block, in a cut where nothing else lacks its
end. -/
def OutermostOpen (t message : Text) (place : Location) : Prop :=
  ∃ outer inner, Cut t (outer ++ code '{' :: inner) ∧ Terminated (outer ++ code '{' :: inner) ∧
    depth outer = 0 ∧ ¬ Closed inner ∧ message = "Unclosed '\x7b'".toList ∧
    place = Location.behind (outer.flatMap text)

theorem firstFault_iff {t : Text} {f : Fault} {place : Location} :
    FirstFault t f.message place ↔
      ∃ pre l post, lexemes t = pre ++ l :: post ∧ (∀ k ∈ pre, k.fault? = none) ∧
        l.fault? = some f ∧ place = Location.start.after (pre.flatMap text) := by
  constructor
  · intro h
    obtain ⟨pre, l, post, u, hcut, hpre, hl, hplace⟩ := h
    refine ⟨pre, l, post, (cut_iff.mp hcut).symm, terminated_iff.mp hpre, ?_,
      by rw [hplace, Location.start_after]⟩
    rcases hl with ⟨rfl, hm⟩ | ⟨rfl, hm⟩
    · rw [fault?, Fault.message_injective (g := .openComment) hm]
    · rw [fault?, Fault.message_injective (g := .openString) hm]
  · intro h
    obtain ⟨pre, l, post, hls, hpre, hl, hplace⟩ := h
    have hcut : Cut t (pre ++ l :: post) := cut_iff.mpr hls.symm
    rw [Location.start_after] at hplace
    cases l with
    | openComment u =>
      obtain rfl : Fault.openComment = f := Option.some.inj hl
      exact ⟨pre, _, post, u, hcut, terminated_iff.mpr hpre, .inl ⟨rfl, rfl⟩, hplace⟩
    | openString u =>
      obtain rfl : Fault.openString = f := Option.some.inj hl
      exact ⟨pre, _, post, u, hcut, terminated_iff.mpr hpre, .inr ⟨rfl, rfl⟩, hplace⟩
    | _ => simp [fault?] at hl

theorem outermostOpen_iff {t : Text} {f : Fault} {place : Location} :
    OutermostOpen t f.message place ↔
      (∀ l ∈ lexemes t, l.fault? = none) ∧ f = .openBlock ∧
        ∃ outer inner, lexemes t = outer ++ code '{' :: inner ∧ depth outer = 0 ∧
          ¬ Closed inner ∧ place = Location.start.after (outer.flatMap text) := by
  constructor
  · intro h
    obtain ⟨outer, inner, hcut, hterm, hd, hi, hm, hplace⟩ := h
    rw [cut_iff.mp hcut, terminated_iff] at hterm
    refine ⟨hterm, Fault.message_injective hm, outer, inner, (cut_iff.mp hcut).symm, hd, hi, ?_⟩
    rw [hplace, Location.start_after]
  · intro h
    obtain ⟨hfree, rfl, outer, inner, hls, hd, hi, hplace⟩ := h
    rw [hls, ← terminated_iff] at hfree
    refine ⟨outer, inner, cut_iff.mpr hls.symm, hfree, hd, hi, rfl, ?_⟩
    rw [hplace, Location.start_after]

/-- A scan fails exactly at the first comment or string without its end, or else at the outermost
brace left open. -/
theorem balanced_error_iff (t : Text) (e : ScanError) :
    balanced t = .error e ↔
      FirstFault t e.fault.message e.location ∨ OutermostOpen t e.fault.message e.location := by
  obtain ⟨f, place⟩ := e
  rw [firstFault_iff, outermostOpen_iff]
  constructor
  · intro h
    rcases fault_or_faultless (lexemes t) with ⟨pre, l, post, g, hls, hpre, hl⟩ | hfree
    · rw [balanced_of_fault hls hpre hl] at h
      cases h
      exact .inl ⟨pre, l, post, hls, hpre, hl, rfl⟩
    · have hd : depth (lexemes t) ≠ 0 := by
        intro hd
        simp [balanced_of_depth hfree hd] at h
      obtain ⟨outer, inner, hls, ho, hi⟩ := exists_outermost (Nat.pos_of_ne_zero hd)
      rw [balanced_of_outermost hfree hls ho hi] at h
      cases h
      exact .inr ⟨hfree, rfl, outer, inner, hls, ho, hi, rfl⟩
  · intro h
    rcases h with ⟨pre, l, post, hls, hpre, hl, rfl⟩ | ⟨hfree, rfl, outer, inner, hls, hd, hi, rfl⟩
    · exact balanced_of_fault hls hpre hl
    · exact balanced_of_outermost hfree hls hd hi

example : balanced "A \x7b\n  b \x7b \"x\n".toList = .error ⟨.openString, ⟨2, 7⟩⟩ := by cbv

end Block

end DatalogDoc
