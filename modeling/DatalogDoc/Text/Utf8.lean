import DatalogDoc.Text

/-!
# UTF-8

Strict and lossy decoding share one step, which reads the character at the front of some bytes or
says how many of them could at most have begun one.
-/

namespace DatalogDoc

abbrev Bytes := List UInt8

namespace Utf8

def encode (t : Text) : Bytes := t.flatMap String.utf8EncodeChar

/-- The values that a byte may take, both ends included. -/
structure Range where
  low : UInt8
  high : UInt8

namespace Range

def contains (r : Range) (b : UInt8) : Bool := r.low ≤ b && b ≤ r.high

def continuation : Range := ⟨0x80, 0xBF⟩

end Range

/-- The ranges of the bytes that follow a given first byte, or nothing for one that begins no
character. The second byte is narrowed to rule out overlong forms, surrogates and values above the
last code point. -/
def tail? (first : UInt8) : Option (List Range) :=
  if first < 0x80 then some []
  else if first < 0xC2 then none
  else if first < 0xE0 then some [.continuation]
  else if first = 0xE0 then some [⟨0xA0, 0xBF⟩, .continuation]
  else if first = 0xED then some [⟨0x80, 0x9F⟩, .continuation]
  else if first < 0xF0 then some [.continuation, .continuation]
  else if first = 0xF0 then some [⟨0x90, 0xBF⟩, .continuation, .continuation]
  else if first < 0xF4 then some [.continuation, .continuation, .continuation]
  else if first = 0xF4 then some [⟨0x80, 0x8F⟩, .continuation, .continuation]
  else none

inductive Fit
  | all (taken rest : Bytes)
  /-- The byte after the taken ones is out of its range. -/
  | stopped (taken rest : Bytes)
  /-- The bytes end before the ranges do. -/
  | short

namespace Fit

def cons (b : UInt8) : Fit → Fit
  | all taken rest => all (b :: taken) rest
  | stopped taken rest => stopped (b :: taken) rest
  | short => short

end Fit

def fit : List Range → Bytes → Fit
  | [], bytes => .all [] bytes
  | _ :: _, [] => .short
  | r :: rs, b :: bytes =>
    if r.contains b then (fit rs bytes).cons b else .stopped [] (b :: bytes)

/-- The code point that a first byte and its continuation bytes spell. -/
def codePoint (first : UInt8) (continuation : Bytes) : Nat :=
  let lead := match continuation.length with
    | 0 => first.toNat
    | 1 => first.toNat % 32
    | 2 => first.toNat % 16
    | _ => first.toNat % 8
  continuation.foldl (fun n b => n * 64 + b.toNat % 64) lead

inductive Step
  | char (c : Char) (rest : Bytes)
  /-- No character; `length` bytes are the longest front that could have begun one, or one byte if
  not even the first could. -/
  | invalid (length : Nat) (rest : Bytes)
  /-- The bytes end inside a character. -/
  | incomplete

def step (first : UInt8) (bytes : Bytes) : Step :=
  match tail? first with
  | none => .invalid 1 bytes
  | some ranges =>
    match fit ranges bytes with
    | .all taken rest => .char (Char.ofNat (codePoint first taken)) rest
    | .stopped taken rest => .invalid (taken.length + 1) rest
    | .short => .incomplete

theorem fit_bytes {rs : List Range} {bytes taken rest : Bytes}
    (h : fit rs bytes = .all taken rest ∨ fit rs bytes = .stopped taken rest) :
    bytes = taken ++ rest := by
  induction rs generalizing bytes taken with
  | nil =>
    simp only [fit, Fit.all.injEq, reduceCtorEq, or_false] at h
    simp [← h.1, h.2]
  | cons r rs ih =>
    cases bytes with
    | nil => simp [fit] at h
    | cons b bytes =>
      simp only [fit] at h
      split at h
      · cases hf : fit rs bytes with
        | all u v =>
          simp only [hf, Fit.cons, Fit.all.injEq, reduceCtorEq, or_false] at h
          obtain ⟨rfl, rfl⟩ := h
          simp [ih (.inl hf)]
        | stopped u v =>
          simp only [hf, Fit.cons, Fit.stopped.injEq, reduceCtorEq, false_or] at h
          obtain ⟨rfl, rfl⟩ := h
          simp [ih (.inr hf)]
        | short => simp [hf, Fit.cons] at h
      · simp only [reduceCtorEq, Fit.stopped.injEq, false_or] at h
        simp [← h.1, h.2]

theorem length_le_of_step {first : UInt8} {bytes rest : Bytes}
    (h : (∃ c, step first bytes = .char c rest) ∨ (∃ n, step first bytes = .invalid n rest)) :
    rest.length ≤ bytes.length := by
  unfold step at h
  split at h
  · simp only [reduceCtorEq, exists_false, Step.invalid.injEq, false_or] at h
    obtain ⟨_, _, rfl⟩ := h
    exact Nat.le_refl _
  · split at h
    case h_1 taken rest' hf =>
      simp only [Step.char.injEq, reduceCtorEq, exists_false, or_false] at h
      obtain ⟨_, _, rfl⟩ := h
      rw [fit_bytes (.inl hf), List.length_append]
      omega
    case h_2 taken rest' hf =>
      simp only [Step.invalid.injEq, reduceCtorEq, exists_false, false_or] at h
      obtain ⟨_, _, rfl⟩ := h
      rw [fit_bytes (.inr hf), List.length_append]
      omega
    case h_3 => simp at h

structure Defect where
  index : Nat
  /-- The length of what could have begun a character; nothing where the bytes end inside one. -/
  length : Option Nat
deriving DecidableEq

def Defect.message (d : Defect) : Text :=
  let index := (Nat.repr d.index).toList
  match d.length with
  | some n =>
    "invalid utf-8 sequence of ".toList ++ (Nat.repr n).toList ++ " bytes from index ".toList ++ index
  | none => "incomplete utf-8 byte sequence from index ".toList ++ index

def decode : Bytes → Except Defect Text
  | [] => .ok []
  | b :: bytes =>
    match _ : step b bytes with
    | .char c rest =>
      match decode rest with
      | .ok t => .ok (c :: t)
      | .error d => .error { d with index := c.utf8Size + d.index }
    | .invalid n _ => .error ⟨0, some n⟩
    | .incomplete => .error ⟨0, none⟩
termination_by bytes => bytes.length
decreasing_by
  exact Nat.lt_succ_of_le (length_le_of_step (.inl ⟨_, by assumption⟩))

/-- The text with the replacement character in the place of each defect. -/
def decodeLossy : Bytes → Text
  | [] => []
  | b :: bytes =>
    match _ : step b bytes with
    | .char c rest => c :: decodeLossy rest
    | .invalid _ rest => '\uFFFD' :: decodeLossy rest
    | .incomplete => ['\uFFFD']
termination_by bytes => bytes.length
decreasing_by
  · exact Nat.lt_succ_of_le (length_le_of_step (.inl ⟨_, by assumption⟩))
  · exact Nat.lt_succ_of_le (length_le_of_step (.inr ⟨_, by assumption⟩))

end Utf8

end DatalogDoc
