import DatalogDoc.Text.Utf8
import Mathlib

/-!
# The bytes of a character

The ranges that follow a first byte hold exactly the bytes that spell a character with it. A front of
such bytes is what can begin one.
-/

namespace DatalogDoc.Utf8

/-! The ranges behind a first byte. -/

/-- The range of the second of several bytes, which depends on the first. -/
def second (first : Nat) : Range where
  low := if first = 0xE0 then 0xA0 else if first = 0xF0 then 0x90 else 0x80
  high := if first = 0xED then 0x9F else if first = 0xF4 then 0x8F else 0xBF

variable {f a b c : UInt8} {rs : List Range}

theorem tail?_one (h : f.toNat < 0x80) : tail? f = some [] := by
  simp [tail?, UInt8.lt_iff_toNat_lt, h]

theorem tail?_two (h : 0xC2 ≤ f.toNat) (h' : f.toNat < 0xE0) :
    tail? f = some [.continuation] := by
  simp only [tail?, UInt8.lt_iff_toNat_lt, UInt8.reduceToNat]
  rw [if_neg (by omega), if_neg (by omega), if_pos h']

theorem tail?_three (h : 0xE0 ≤ f.toNat) (h' : f.toNat < 0xF0) :
    tail? f = some [second f.toNat, .continuation] := by
  simp only [tail?, UInt8.lt_iff_toNat_lt, ← UInt8.toNat_inj, UInt8.reduceToNat]
  rw [if_neg (by omega), if_neg (by omega), if_neg (by omega)]
  by_cases hlow : f.toNat = 0xE0
  · simp [hlow, second]
  · by_cases hhigh : f.toNat = 0xED
    · simp [hhigh, second]
    · rw [if_neg hlow, if_neg hhigh, if_pos h']
      simp [second, hlow, hhigh, show f.toNat ≠ 0xF0 by omega, show f.toNat ≠ 0xF4 by omega,
        Range.continuation]

theorem tail?_four (h : 0xF0 ≤ f.toNat) (h' : f.toNat ≤ 0xF4) :
    tail? f = some [second f.toNat, .continuation, .continuation] := by
  simp only [tail?, UInt8.lt_iff_toNat_lt, ← UInt8.toNat_inj, UInt8.reduceToNat]
  rw [if_neg (by omega), if_neg (by omega), if_neg (by omega), if_neg (by omega),
    if_neg (by omega), if_neg (by omega)]
  by_cases hlow : f.toNat = 0xF0
  · simp [hlow, second]
  · by_cases hhigh : f.toNat = 0xF4
    · simp [hhigh, second]
    · rw [if_neg hlow, if_pos (by omega)]
      simp [second, hlow, hhigh, show f.toNat ≠ 0xE0 by omega, show f.toNat ≠ 0xED by omega,
        Range.continuation]

theorem tail?_none (h : 0x80 ≤ f.toNat ∧ f.toNat < 0xC2 ∨ 0xF4 < f.toNat) : tail? f = none := by
  simp only [tail?, UInt8.lt_iff_toNat_lt, ← UInt8.toNat_inj, UInt8.reduceToNat]
  split_ifs <;> first | rfl | omega

/-- The first bytes by the number of those that follow. -/
theorem tail?_cases (h : tail? f = some rs) :
    f.toNat < 0x80 ∧ rs = [] ∨
      0xC2 ≤ f.toNat ∧ f.toNat < 0xE0 ∧ rs = [.continuation] ∨
      0xE0 ≤ f.toNat ∧ f.toNat < 0xF0 ∧ rs = [second f.toNat, .continuation] ∨
      0xF0 ≤ f.toNat ∧ f.toNat ≤ 0xF4 ∧
        rs = [second f.toNat, .continuation, .continuation] := by
  have hclass : f.toNat < 0x80 ∨ (0x80 ≤ f.toNat ∧ f.toNat < 0xC2 ∨ 0xF4 < f.toNat) ∨
      (0xC2 ≤ f.toNat ∧ f.toNat < 0xE0) ∨ (0xE0 ≤ f.toNat ∧ f.toNat < 0xF0) ∨
      (0xF0 ≤ f.toNat ∧ f.toNat ≤ 0xF4) := by omega
  rcases hclass with hf | hf | ⟨hf, hf'⟩ | ⟨hf, hf'⟩ | ⟨hf, hf'⟩
  · rw [tail?_one hf, Option.some.injEq] at h
    exact .inl ⟨hf, h.symm⟩
  · rw [tail?_none hf] at h
    exact absurd h (by simp)
  · rw [tail?_two hf hf', Option.some.injEq] at h
    exact .inr (.inl ⟨hf, hf', h.symm⟩)
  · rw [tail?_three hf hf', Option.some.injEq] at h
    exact .inr (.inr (.inl ⟨hf, hf', h.symm⟩))
  · rw [tail?_four hf hf', Option.some.injEq] at h
    exact .inr (.inr (.inr ⟨hf, hf', h.symm⟩))

theorem Range.contains_iff {r : Range} :
    r.contains b = true ↔ r.low.toNat ≤ b.toNat ∧ b.toNat ≤ r.high.toNat := by
  simp [Range.contains, UInt8.le_iff_toNat_le]

theorem continuation_contains_iff :
    Range.continuation.contains b = true ↔ 0x80 ≤ b.toNat ∧ b.toNat ≤ 0xBF :=
  Range.contains_iff

theorem second_contains_iff {n : Nat} : (second n).contains b = true ↔
    (0x80 ≤ b.toNat ∧ b.toNat ≤ 0xBF) ∧ (n = 0xE0 → 0xA0 ≤ b.toNat) ∧
      (n = 0xF0 → 0x90 ≤ b.toNat) ∧ (n = 0xED → b.toNat ≤ 0x9F) ∧ (n = 0xF4 → b.toNat ≤ 0x8F) := by
  rw [Range.contains_iff, second]
  split_ifs <;> simp <;> omega

/-! Bytes in ranges. -/

/-- The bytes lie in the ranges one after the other. There may be fewer bytes than ranges. -/
def Within : List Range → Bytes → Prop
  | _, [] => True
  | [], _ :: _ => False
  | r :: rs, b :: bytes => r.contains b = true ∧ Within rs bytes

theorem Within.nil : Within rs [] := by
  cases rs <;> trivial

theorem codePoint_nil (f : UInt8) : codePoint f [] = f.toNat := rfl

theorem codePoint_one (f a : UInt8) : codePoint f [a] = f.toNat % 32 * 64 + a.toNat % 64 := rfl

theorem codePoint_two (f a b : UInt8) :
    codePoint f [a, b] = (f.toNat % 16 * 64 + a.toNat % 64) * 64 + b.toNat % 64 := rfl

theorem codePoint_three (f a b c : UInt8) :
    codePoint f [a, b, c] =
      ((f.toNat % 8 * 64 + a.toNat % 64) * 64 + b.toNat % 64) * 64 + c.toNat % 64 := rfl

/-- The first byte and those behind it, which fill its ranges, give the code point. -/
def Spelled (n : Nat) (f : UInt8) (taken : Bytes) : Prop :=
  ∃ rs, tail? f = some rs ∧ Within rs taken ∧ taken.length = rs.length ∧ codePoint f taken = n

variable {n : Nat}

private theorem toNat_ofNat (h : n < 256) : (UInt8.ofNat n).toNat = n :=
  UInt8.toNat_ofNat_of_lt' h

theorem spelled_one (h : n ≤ 0x7F) : Spelled n (.ofNat n) [] := by
  have hf : (UInt8.ofNat n).toNat = n := toNat_ofNat (by omega)
  exact ⟨[], tail?_one (by omega), .nil, rfl, hf⟩

theorem spelled_two (h : 0x7F < n) (h' : n ≤ 0x7FF) :
    Spelled n (.ofNat (n / 64 % 32 + 0xC0)) [.ofNat (n % 64 + 0x80)] := by
  have hf := toNat_ofNat (n := n / 64 % 32 + 0xC0) (by omega)
  have ha := toNat_ofNat (n := n % 64 + 0x80) (by omega)
  refine ⟨_, tail?_two (by omega) (by omega), ⟨?_, .nil⟩, rfl, ?_⟩
  · rw [continuation_contains_iff]
    omega
  · rw [codePoint_one]
    omega

theorem spelled_three (h : 0x7FF < n) (h' : n ≤ 0xFFFF) (hvalid : n < 0xD800 ∨ 0xDFFF < n) :
    Spelled n (.ofNat (n / 4096 % 16 + 0xE0))
      [.ofNat (n / 64 % 64 + 0x80), .ofNat (n % 64 + 0x80)] := by
  have hf := toNat_ofNat (n := n / 4096 % 16 + 0xE0) (by omega)
  have ha := toNat_ofNat (n := n / 64 % 64 + 0x80) (by omega)
  have hb := toNat_ofNat (n := n % 64 + 0x80) (by omega)
  refine ⟨_, tail?_three (by omega) (by omega), ⟨?_, ?_, .nil⟩, rfl, ?_⟩
  · rw [second_contains_iff]
    omega
  · rw [continuation_contains_iff]
    omega
  · rw [codePoint_two]
    omega

theorem spelled_four (h : 0xFFFF < n) (h' : n < 0x110000) :
    Spelled n (.ofNat (n / 262144 % 8 + 0xF0))
      [.ofNat (n / 4096 % 64 + 0x80), .ofNat (n / 64 % 64 + 0x80), .ofNat (n % 64 + 0x80)] := by
  have hf := toNat_ofNat (n := n / 262144 % 8 + 0xF0) (by omega)
  have ha := toNat_ofNat (n := n / 4096 % 64 + 0x80) (by omega)
  have hb := toNat_ofNat (n := n / 64 % 64 + 0x80) (by omega)
  have hc := toNat_ofNat (n := n % 64 + 0x80) (by omega)
  refine ⟨_, tail?_four (by omega) (by omega), ⟨?_, ?_, ?_, .nil⟩, rfl, ?_⟩
  · rw [second_contains_iff]
    omega
  · rw [continuation_contains_iff]
    omega
  · rw [continuation_contains_iff]
    omega
  · rw [codePoint_three]
    omega

theorem exists_spelled (c : Char) :
    ∃ f taken, String.utf8EncodeChar c = f :: taken ∧ Spelled c.toNat f taken := by
  have hv : c.val.toNat < 0xD800 ∨ 0xDFFF < c.val.toNat ∧ c.val.toNat < 0x110000 := c.valid
  simp only [String.utf8EncodeChar, ← Char.toNat_val]
  split_ifs with h₁ h₂ h₃
  · exact ⟨_, _, rfl, spelled_one h₁⟩
  · exact ⟨_, _, rfl, spelled_two (by omega) h₂⟩
  · exact ⟨_, _, rfl, spelled_three (by omega) h₃ (by omega)⟩
  · exact ⟨_, _, rfl, spelled_four (by omega) (by omega)⟩

private theorem ofNat_eq (h : n = b.toNat) : UInt8.ofNat n = b := by
  rw [h, UInt8.ofNat_toNat]

theorem Spelled.encodeChar {taken : Bytes} (h : Spelled n f taken) :
    String.utf8EncodeChar (Char.ofNat n) = f :: taken := by
  obtain ⟨rs, htail, hwithin, hlen, rfl⟩ := h
  have hval (hv : (codePoint f taken).isValidChar) :
      (Char.ofNat (codePoint f taken)).val.toNat = codePoint f taken := by
    rw [Char.ofNat, dif_pos hv]
    rfl
  rcases tail?_cases htail with ⟨hf, rfl⟩ | ⟨hf, hf', rfl⟩ | ⟨hf, hf', rfl⟩ | ⟨hf, hf', rfl⟩
  · obtain rfl := List.eq_nil_of_length_eq_zero hlen
    have hn := codePoint_nil f
    simp only [String.utf8EncodeChar, hval (.inl (by omega))]
    rw [if_pos (by omega), ofNat_eq hn]
  · obtain ⟨a, rfl⟩ := List.length_eq_one_iff.mp hlen
    obtain ⟨ha, -⟩ := hwithin
    rw [continuation_contains_iff] at ha
    have hn := codePoint_one f a
    simp only [String.utf8EncodeChar, hval (.inl (by omega))]
    rw [if_neg (by omega), if_pos (by omega), ofNat_eq (b := f) (by omega),
      ofNat_eq (b := a) (by omega)]
  · obtain ⟨a, b, rfl⟩ := List.length_eq_two.mp hlen
    obtain ⟨ha, hb, -⟩ := hwithin
    rw [second_contains_iff] at ha
    rw [continuation_contains_iff] at hb
    have hn := codePoint_two f a b
    simp only [String.utf8EncodeChar, hval (by unfold Nat.isValidChar; omega)]
    rw [if_neg (by omega), if_neg (by omega), if_pos (by omega), ofNat_eq (b := f) (by omega),
      ofNat_eq (b := a) (by omega), ofNat_eq (b := b) (by omega)]
  · obtain ⟨a, b, c, rfl⟩ := List.length_eq_three.mp hlen
    obtain ⟨ha, hb, hc, -⟩ := hwithin
    rw [second_contains_iff] at ha
    rw [continuation_contains_iff] at hb hc
    have hn := codePoint_three f a b c
    simp only [String.utf8EncodeChar, hval (by unfold Nat.isValidChar; omega)]
    rw [if_neg (by omega), if_neg (by omega), if_neg (by omega), ofNat_eq (b := f) (by omega),
      ofNat_eq (b := a) (by omega), ofNat_eq (b := b) (by omega), ofNat_eq (b := c) (by omega)]

/-! The front of a character. -/

variable {taken : Bytes}

theorem Within.of_prefix {front : Bytes} (h : Within rs taken) (hfront : front <+: taken) :
    Within rs front := by
  induction rs generalizing taken front with
  | nil =>
    cases taken with
    | nil => exact List.prefix_nil.mp hfront ▸ .nil
    | cons b taken => exact h.elim
  | cons r rs ih =>
    cases front with
    | nil => exact .nil
    | cons b front =>
      obtain ⟨u, rfl⟩ := hfront
      exact ⟨h.1, ih h.2 (List.prefix_append front u)⟩

theorem Within.exists_fill (h : Within rs taken) (hrs : ∀ r ∈ rs, r.contains r.low = true) :
    ∃ more, Within rs (taken ++ more) ∧ (taken ++ more).length = rs.length := by
  induction rs generalizing taken with
  | nil =>
    cases taken with
    | nil => exact ⟨[], .nil, rfl⟩
    | cons b taken => exact h.elim
  | cons r rs ih =>
    have hrest : ∀ s ∈ rs, s.contains s.low = true := fun s hs => hrs s (by simp [hs])
    cases taken with
    | nil =>
      obtain ⟨more, hmore, hlen⟩ := ih .nil hrest
      exact ⟨r.low :: more, ⟨hrs r (by simp), hmore⟩, by simpa using hlen⟩
    | cons b taken =>
      obtain ⟨more, hmore, hlen⟩ := ih h.2 hrest
      exact ⟨more, ⟨h.1, hmore⟩, by simpa using hlen⟩

theorem contains_low_of_tail? (h : tail? f = some rs) : ∀ r ∈ rs, r.contains r.low = true := by
  have hsecond : (second f.toNat).contains (second f.toNat).low = true := by
    rw [Range.contains_iff, second]
    split_ifs <;> first | decide | omega
  have hcontinuation : Range.continuation.contains Range.continuation.low = true := by decide
  rcases tail?_cases h with ⟨-, rfl⟩ | ⟨-, -, rfl⟩ | ⟨-, -, rfl⟩ | ⟨-, -, rfl⟩ <;>
    simp [hsecond, hcontinuation]

theorem length_le_of_tail? (h : tail? f = some rs) : rs.length ≤ 3 := by
  rcases tail?_cases h with ⟨-, rfl⟩ | ⟨-, -, rfl⟩ | ⟨-, -, rfl⟩ | ⟨-, -, rfl⟩ <;> simp

/-- Some bytes could begin a character. -/
def Opens (front : Bytes) : Prop := ∃ c, front <+: String.utf8EncodeChar c

theorem opens_nil : Opens [] := ⟨'a', List.nil_prefix⟩

theorem opens_cons_iff : Opens (f :: taken) ↔ ∃ rs, tail? f = some rs ∧ Within rs taken := by
  constructor
  · intro h
    obtain ⟨c, hc⟩ := h
    obtain ⟨f', whole, hencode, rs, htail, hwithin, -⟩ := exists_spelled c
    rw [hencode, List.cons_prefix_cons] at hc
    obtain ⟨rfl, hfront⟩ := hc
    exact ⟨rs, htail, hwithin.of_prefix hfront⟩
  · intro h
    obtain ⟨rs, htail, hwithin⟩ := h
    obtain ⟨more, hmore, hlen⟩ := hwithin.exists_fill (contains_low_of_tail? htail)
    have hencode := Spelled.encodeChar ⟨rs, htail, hmore, hlen, rfl⟩
    exact ⟨_, more, by rw [hencode, List.cons_append]⟩

end DatalogDoc.Utf8
