import DatalogDoc.Proofs.Characters

/-!
# Strict and lossy decoding

Both decoders cut bytes at the same places. A text is decoded from exactly the bytes that encode it.
The first defect lies behind the longest valid front, and there the lossy decoder puts its
replacement and goes on.
-/

namespace DatalogDoc.Utf8

variable {f : UInt8} {rs : List Range} {bytes taken rest : Bytes} {n : Nat}

/-! How far bytes fit. -/

theorem fit_append (h : Within rs taken) (hlen : taken.length = rs.length) (rest : Bytes) :
    fit rs (taken ++ rest) = .all taken rest := by
  induction rs generalizing taken with
  | nil =>
    obtain rfl := List.eq_nil_of_length_eq_zero hlen
    rfl
  | cons r rs ih =>
    cases taken with
    | nil => simp at hlen
    | cons b taken =>
      rw [List.cons_append, fit, if_pos h.1, ih h.2 (by simpa using hlen)]
      rfl

theorem fit_spec (rs : List Range) (bytes : Bytes) :
    match fit rs bytes with
    | .all taken rest => bytes = taken ++ rest ∧ Within rs taken ∧ taken.length = rs.length
    | .stopped taken rest => bytes = taken ++ rest ∧ rest ≠ [] ∧ Within rs taken ∧
        taken.length < rs.length ∧ ∀ front, front <+: bytes → Within rs front →
          front.length ≤ taken.length
    | .short => Within rs bytes ∧ bytes.length < rs.length := by
  induction rs generalizing bytes with
  | nil => exact ⟨rfl, .nil, rfl⟩
  | cons r rs ih =>
    cases bytes with
    | nil => exact ⟨.nil, by simp⟩
    | cons b bytes =>
      rw [fit]
      split_ifs with hb
      · have h := ih bytes
        cases hfit : fit rs bytes with
        | all taken rest =>
          rw [hfit] at h
          obtain ⟨rfl, hwithin, hlen⟩ := h
          exact ⟨rfl, ⟨hb, hwithin⟩, by simp [hlen]⟩
        | stopped taken rest =>
          rw [hfit] at h
          obtain ⟨rfl, hrest, hwithin, hlen, hlongest⟩ := h
          refine ⟨rfl, hrest, ⟨hb, hwithin⟩, by simpa using hlen, ?_⟩
          intro front hfront hin
          cases front with
          | nil => simp
          | cons c front =>
            obtain ⟨-, hfront⟩ := List.cons_prefix_cons.mp hfront
            simpa using hlongest front hfront hin.2
        | short =>
          rw [hfit] at h
          exact ⟨⟨hb, h.1⟩, by simpa using h.2⟩
      · refine ⟨rfl, by simp, .nil, by simp, ?_⟩
        intro front hfront hin
        cases front with
        | nil => simp
        | cons c front =>
          obtain ⟨rfl, -⟩ := List.cons_prefix_cons.mp hfront
          exact absurd hin.1 hb

/-! What stands at the front of some bytes. -/

/-- How long the longest front of some bytes is that has a property. -/
def LongestFront (P : Bytes → Prop) (bytes : Bytes) (n : Nat) : Prop :=
  (∃ front, front <+: bytes ∧ P front ∧ front.length = n) ∧
    ∀ front, front <+: bytes → P front → front.length ≤ n

theorem LongestFront.unique {P : Bytes → Prop} {m : Nat} (hn : LongestFront P bytes n)
    (hm : LongestFront P bytes m) : n = m := by
  obtain ⟨⟨x, hx, hPx, rfl⟩, hxmax⟩ := hn
  obtain ⟨⟨y, hy, hPy, rfl⟩, hymax⟩ := hm
  exact Nat.le_antisymm (hymax x hx hPx) (hxmax y hy hPy)

theorem longestFront_opens_of_none (h : tail? f = none) : LongestFront Opens (f :: bytes) 0 := by
  refine ⟨⟨[], List.nil_prefix, opens_nil, rfl⟩, ?_⟩
  intro front hfront hopens
  cases front with
  | nil => exact Nat.le_refl 0
  | cons f' front =>
    obtain ⟨rfl, -⟩ := List.cons_prefix_cons.mp hfront
    obtain ⟨rs, hrs, -⟩ := opens_cons_iff.mp hopens
    simp [h] at hrs

theorem longestFront_opens_of_within (h : tail? f = some rs) (hwithin : Within rs taken)
    (htaken : taken <+: bytes)
    (hmax : ∀ front, front <+: bytes → Within rs front → front.length ≤ taken.length) :
    LongestFront Opens (f :: bytes) (taken.length + 1) := by
  refine ⟨⟨f :: taken, List.cons_prefix_cons.mpr ⟨rfl, htaken⟩,
    opens_cons_iff.mpr ⟨rs, h, hwithin⟩, rfl⟩, ?_⟩
  intro front hfront hopens
  cases front with
  | nil => simp
  | cons f' front =>
    obtain ⟨rfl, hbehind⟩ := List.cons_prefix_cons.mp hfront
    obtain ⟨rs', hrs', hin⟩ := opens_cons_iff.mp hopens
    rw [h, Option.some.injEq] at hrs'
    exact Nat.succ_le_succ (hmax front hbehind (hrs' ▸ hin))

theorem step_spec (f : UInt8) (bytes : Bytes) :
    match step f bytes with
    | .char c rest => f :: bytes = String.utf8EncodeChar c ++ rest
    | .invalid n rest => ∃ k, LongestFront Opens (f :: bytes) k ∧ k < (f :: bytes).length ∧
        n = max 1 k ∧ n ≤ 3 ∧ (f :: bytes).drop n = rest
    | .incomplete => Opens (f :: bytes) := by
  rw [step]
  cases htail : tail? f with
  | none => exact ⟨0, longestFront_opens_of_none htail, by simp, rfl, by omega, rfl⟩
  | some rs =>
    have hspec := fit_spec rs bytes
    dsimp only
    cases hfit : fit rs bytes with
    | all taken rest =>
      rw [hfit] at hspec
      obtain ⟨rfl, hwithin, hlen⟩ := hspec
      simp only [Spelled.encodeChar ⟨rs, htail, hwithin, hlen, rfl⟩, List.cons_append]
    | stopped taken rest =>
      rw [hfit] at hspec
      obtain ⟨rfl, hne, hwithin, hlen, hmax⟩ := hspec
      have hrest := List.length_pos_iff.mpr hne
      have hthree := length_le_of_tail? htail
      refine ⟨taken.length + 1,
        longestFront_opens_of_within htail hwithin (List.prefix_append taken rest) hmax, ?_,
        by omega, by omega, by simp⟩
      rw [List.length_cons, List.length_append]
      omega
    | short =>
      rw [hfit] at hspec
      exact opens_cons_iff.mpr ⟨rs, htail, hspec.1⟩

theorem step_eq_char_iff {c : Char} :
    step f bytes = .char c rest ↔ f :: bytes = String.utf8EncodeChar c ++ rest := by
  constructor
  · intro h
    have hspec := step_spec f bytes
    rwa [h] at hspec
  · intro h
    obtain ⟨f', taken, hencode, rs, htail, hwithin, hlen, hcode⟩ := exists_spelled c
    rw [hencode, List.cons_append] at h
    obtain ⟨rfl, rfl⟩ := List.cons.inj h
    rw [step, htail]
    simp only [fit_append hwithin hlen, hcode, Char.ofNat_toNat]

theorem encodeChar_append_inj {c d : Char} {x y : Bytes}
    (h : String.utf8EncodeChar c ++ x = String.utf8EncodeChar d ++ y) : c = d ∧ x = y := by
  obtain ⟨f, taken, hencode, -⟩ := exists_spelled c
  have hc : step f (taken ++ x) = .char c x := by
    rw [step_eq_char_iff, hencode, List.cons_append]
  have hd : step f (taken ++ x) = .char d y := by
    rw [step_eq_char_iff, ← h, hencode, List.cons_append]
  rw [hc, Step.char.injEq] at hd
  exact hd

/-! Decoding. -/

theorem encode_cons (c : Char) (t : Text) : encode (c :: t) = String.utf8EncodeChar c ++ encode t :=
  List.flatMap_cons

/-- No character can be read at the front, for the given length of a defect. -/
inductive Stuck : Bytes → Option Nat → Prop
  | invalid {f : UInt8} {bytes rest : Bytes} {n : Nat} (h : step f bytes = .invalid n rest) :
    Stuck (f :: bytes) (some n)
  | incomplete {f : UInt8} {bytes : Bytes} (h : step f bytes = .incomplete) : Stuck (f :: bytes) none

theorem decode_of_char {c : Char} {t : Text} (h : step f bytes = .char c rest)
    (ht : decode rest = .ok t) : decode (f :: bytes) = .ok (c :: t) := by
  rw [decode]
  split <;> simp_all

theorem decodeLossy_of_char {c : Char} (h : step f bytes = .char c rest) :
    decodeLossy (f :: bytes) = c :: decodeLossy rest := by
  rw [decodeLossy]
  split <;> simp_all

theorem decodeLossy_encode_append (t : Text) (rest : Bytes) :
    decodeLossy (encode t ++ rest) = t ++ decodeLossy rest := by
  induction t with
  | nil => rfl
  | cons c t ih =>
    obtain ⟨f, taken, hencode, -⟩ := exists_spelled c
    have hstep : step f (taken ++ (encode t ++ rest)) = .char c (encode t ++ rest) := by
      rw [step_eq_char_iff, hencode, List.cons_append]
    rw [encode_cons, hencode, List.append_assoc, List.cons_append, decodeLossy_of_char hstep, ih,
      List.cons_append]

theorem decodeLossy_encode (t : Text) : decodeLossy (encode t) = t := by
  have h := decodeLossy_encode_append t []
  rwa [List.append_nil, decodeLossy.eq_1, List.append_nil] at h

theorem decode_encode (t : Text) : decode (encode t) = .ok t := by
  induction t with
  | nil => exact decode.eq_1
  | cons c t ih =>
    obtain ⟨f, taken, hencode, -⟩ := exists_spelled c
    have hstep : step f (taken ++ encode t) = .char c (encode t) := by
      rw [step_eq_char_iff, hencode, List.cons_append]
    rw [encode_cons, hencode, List.cons_append, decode_of_char hstep ih]

theorem eq_encode_of_decode {t : Text} (h : decode bytes = .ok t) : bytes = encode t := by
  fun_induction decode bytes generalizing t with
  | case1 =>
    obtain rfl := Except.ok.inj h
    rfl
  | case2 f bytes c rest hstep u hdecode ih =>
    obtain rfl := Except.ok.inj h
    rw [step_eq_char_iff.mp hstep, ih hdecode, encode_cons]
  | case3 | case4 | case5 => simp at h

theorem exists_of_decode_error {d : Defect} (h : decode bytes = .error d) :
    ∃ t stuck, bytes = encode t ++ stuck ∧ d.index = (encode t).length ∧ Stuck stuck d.length := by
  fun_induction decode bytes generalizing d with
  | case1 => simp at h
  | case2 => simp at h
  | case3 f bytes c rest hstep d' hdecode ih =>
    obtain rfl := Except.error.inj h
    obtain ⟨t, stuck, hrest, hindex, hstuck⟩ := ih hdecode
    refine ⟨c :: t, stuck, ?_, ?_, hstuck⟩
    · rw [step_eq_char_iff.mp hstep, hrest, encode_cons, List.append_assoc]
    · rw [encode_cons, List.length_append, String.length_utf8EncodeChar, hindex]
  | case4 f bytes n rest hstep =>
    obtain rfl := Except.error.inj h
    exact ⟨[], f :: bytes, rfl, rfl, .invalid hstep⟩
  | case5 f bytes hstep =>
    obtain rfl := Except.error.inj h
    exact ⟨[], f :: bytes, rfl, rfl, .incomplete hstep⟩

theorem decode_eq_ok_iff {t : Text} : decode bytes = .ok t ↔ bytes = encode t :=
  ⟨eq_encode_of_decode, fun h => h ▸ decode_encode t⟩

/-! Defects. -/

def Valid (bytes : Bytes) : Prop := ∃ t, bytes = encode t

/-- The defect lies behind the longest valid front. It is as long as the longest front of the rest
that could begin a character, but one byte where not even the first could, and has no length where
all of the rest could. -/
structure Defect.Spoils (d : Defect) (bytes : Bytes) : Prop where
  index : LongestFront Valid bytes d.index
  length : ∃ n, LongestFront Opens (bytes.drop d.index) n ∧
    d.length = if n = (bytes.drop d.index).length then none else some (max 1 n)

theorem Defect.Spoils.unique {d d' : Defect} (h : d.Spoils bytes) (h' : d'.Spoils bytes) :
    d = d' := by
  obtain ⟨index, length⟩ := d
  obtain ⟨index', length'⟩ := d'
  obtain rfl : index = index' := h.index.unique h'.index
  obtain ⟨n, hn, hlength⟩ := h.length
  obtain ⟨n', hn', hlength'⟩ := h'.length
  rw [hn'.unique hn] at hlength'
  rw [Defect.mk.injEq]
  exact ⟨rfl, hlength.trans hlength'.symm⟩

variable {l : Option Nat}

theorem Stuck.not_prefix (h : Stuck bytes l) (c : Char) : ¬ String.utf8EncodeChar c <+: bytes := by
  intro hprefix
  obtain ⟨rest, hrest⟩ := hprefix
  cases h with
  | invalid h =>
    rw [step_eq_char_iff.mpr hrest.symm] at h
    simp at h
  | incomplete h =>
    rw [step_eq_char_iff.mpr hrest.symm] at h
    simp at h

theorem Stuck.exists_longestFront (h : Stuck bytes l) : ∃ n, LongestFront Opens bytes n ∧
    l = if n = bytes.length then none else some (max 1 n) := by
  cases h with
  | @invalid f more rest n h =>
    have hspec := step_spec f more
    rw [h] at hspec
    obtain ⟨k, hk, hlt, rfl, -⟩ := hspec
    exact ⟨k, hk, by rw [if_neg (by omega)]⟩
  | @incomplete f more h =>
    have hspec := step_spec f more
    rw [h] at hspec
    refine ⟨(f :: more).length, ⟨⟨_, List.prefix_rfl, hspec, rfl⟩, ?_⟩, by rw [if_pos rfl]⟩
    intro front hfront _
    exact hfront.length_le

theorem length_le_of_encode_prefix {t u : Text} (hrest : ∀ c, ¬ String.utf8EncodeChar c <+: rest)
    (h : encode u <+: encode t ++ rest) : (encode u).length ≤ (encode t).length := by
  induction t generalizing u with
  | nil =>
    cases u with
    | nil => exact Nat.le_refl 0
    | cons c u =>
      rw [encode_cons] at h
      exact absurd ((List.prefix_append _ _).trans h) (hrest c)
  | cons c t ih =>
    cases u with
    | nil => simp [encode]
    | cons d u =>
      obtain ⟨more, hmore⟩ := h
      simp only [encode_cons, List.append_assoc] at hmore
      obtain ⟨rfl, hbehind⟩ := encodeChar_append_inj hmore
      have hle := ih ⟨more, hbehind⟩
      simp only [encode_cons, List.length_append]
      omega

theorem spoils_of_decode_error {d : Defect} (h : decode bytes = .error d) : d.Spoils bytes := by
  obtain ⟨t, stuck, rfl, hindex, hstuck⟩ := exists_of_decode_error h
  refine ⟨?_, ?_⟩
  · rw [hindex]
    refine ⟨⟨encode t, List.prefix_append _ _, ⟨t, rfl⟩, rfl⟩, ?_⟩
    intro front hfront hvalid
    obtain ⟨u, rfl⟩ := hvalid
    exact length_le_of_encode_prefix hstuck.not_prefix hfront
  · rw [hindex, List.drop_left]
    exact hstuck.exists_longestFront

theorem decode_eq_error_iff {d : Defect} :
    decode bytes = .error d ↔ ¬ Valid bytes ∧ d.Spoils bytes := by
  constructor
  · intro h
    refine ⟨?_, spoils_of_decode_error h⟩
    intro hvalid
    obtain ⟨t, ht⟩ := hvalid
    rw [decode_eq_ok_iff.mpr ht] at h
    simp at h
  · intro h
    cases hdecode : decode bytes with
    | ok t => exact absurd ⟨t, decode_eq_ok_iff.mp hdecode⟩ h.1
    | error d' => rw [(spoils_of_decode_error hdecode).unique h.2]

theorem length_le_of_decode_error {d : Defect} (h : decode bytes = .error d) :
    ∀ n ∈ d.length, 1 ≤ n ∧ n ≤ 3 := by
  obtain ⟨t, stuck, -, -, hstuck⟩ := exists_of_decode_error h
  intro n hn
  obtain ⟨index, length⟩ := d
  cases hstuck with
  | @invalid f more rest m hstep =>
    have hspec := step_spec f more
    rw [hstep] at hspec
    obtain ⟨k, -, -, rfl, hthree, -⟩ := hspec
    obtain rfl := Option.some.inj hn
    omega
  | incomplete => simp at hn

theorem Stuck.decodeLossy (h : Stuck bytes l) :
    decodeLossy bytes = '\uFFFD' :: l.elim [] fun n => Utf8.decodeLossy (bytes.drop n) := by
  cases h with
  | @invalid f more rest n h =>
    have hspec := step_spec f more
    rw [h] at hspec
    obtain ⟨k, -, -, -, -, hdrop⟩ := hspec
    rw [Option.elim_some, hdrop, Utf8.decodeLossy]
    split <;> simp_all
  | incomplete h =>
    rw [Utf8.decodeLossy]
    split <;> simp_all

theorem decodeLossy_of_error {d : Defect} (h : decode bytes = .error d) :
    ∃ t, decode (bytes.take d.index) = .ok t ∧
      decodeLossy bytes =
        t ++ '\uFFFD' :: d.length.elim [] fun n => decodeLossy (bytes.drop (d.index + n)) := by
  obtain ⟨t, stuck, rfl, hindex, hstuck⟩ := exists_of_decode_error h
  refine ⟨t, ?_, ?_⟩
  · rw [hindex, List.take_left, decode_encode]
  · rw [decodeLossy_encode_append, hstuck.decodeLossy, hindex]
    simp only [List.drop_length_add_append]

end DatalogDoc.Utf8
