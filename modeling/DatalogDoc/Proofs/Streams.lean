import DatalogDoc.Proofs.Decoding
import DatalogDoc.Proofs.Generation

/-!
# The two streams of the preprocessor

What the preprocessor prints is decoded strictly, and its complaint with replacements. Both decoders
find the same first defect.
-/

namespace DatalogDoc.Preprocessor

variable {p : Preprocessor} {host : Host} {input : Text} {e : Ended}

theorem result_of_success (hin : host.files.exists? input = true)
    (hl : host.launch p.program (p.arguments ++ [input]) = .ended e)
    (hstatus : e.status = .exited 0) :
    ((p.run host input).start host).1 = (Utf8.decode e.stdout).mapError Error.invalidUtf8 := by
  rw [run_of_success hin hl hstatus]
  cases Utf8.decode e.stdout with
  | error defect => rfl
  | ok t => rfl

theorem reported_mem_reports_iff {told : Text} :
    .reported p.program told ∈ p.reports e ↔ told = e.complaint ∧ told ≠ [] := by
  rw [reports]
  split_ifs with h
  · rw [h]
    simp
  · rw [List.mem_singleton, Event.reported.injEq]
    constructor
    · intro htold
      exact ⟨htold.2, htold.2 ▸ h⟩
    · intro htold
      exact ⟨rfl, htold.1⟩

theorem reported_mem_events_iff {told : Text} (hin : host.files.exists? input = true)
    (hl : host.launch p.program (p.arguments ++ [input]) = .ended e)
    (hstatus : e.status = .exited 0) :
    .reported p.program told ∈ ((p.run host input).start host).2.events ↔
      told = e.complaint ∧ told ≠ [] := by
  have hnone : (Progress.mk e.files [] []).events = [] := rfl
  rw [run_of_success hin hl hstatus, ← reported_mem_reports_iff (p := p)]
  cases Utf8.decode e.stdout with
  | error defect => simp [hnone]
  | ok t => simp [hnone]

/-- A run whose preprocessor succeeds gives the text that the printed bytes encode, or the defect
behind their longest valid front. The complaint is the trimmed lossy decoding, which replaces the
defect that the strict decoder finds and goes on behind it. -/
theorem run_decodes_streams (p : Preprocessor) (host : Host) (input : Text)
    (hin : host.files.exists? input = true)
    (hl : host.launch p.program (p.arguments ++ [input]) = .ended e) :
    let run := (p.run host input).start host
    let lossy := Utf8.decodeLossy e.stderr
    (e.status = .exited 0 →
        (∀ t, run.1 = .ok t ↔ e.stdout = Utf8.encode t) ∧
          (∀ error, run.1 = .error error ↔ ¬ Utf8.Valid e.stdout ∧
            ∃ d : Utf8.Defect, error = .invalidUtf8 d ∧ d.Spoils e.stdout ∧
              ∀ n ∈ d.length, 1 ≤ n ∧ n ≤ 3) ∧
          ∀ told, .reported p.program told ∈ run.2.events ↔ told = trim lossy ∧ told ≠ []) ∧
      (e.status ≠ .exited 0 →
        run.1 = .error (.preprocessorFailed p.program e.status (trim lossy))) ∧
      (∀ t, Utf8.decode e.stderr = .ok t → lossy = t) ∧
      ∀ d, Utf8.decode e.stderr = .error d → d.Spoils e.stderr ∧
        ∃ t, Utf8.decode (e.stderr.take d.index) = .ok t ∧
          lossy = t ++ '\uFFFD' ::
            d.length.elim [] fun n => Utf8.decodeLossy (e.stderr.drop (d.index + n)) := by
  intro run lossy
  refine ⟨?_, ?_, ?_, ?_⟩
  · intro hstatus
    have hresult : run.1 = (Utf8.decode e.stdout).mapError Error.invalidUtf8 :=
      result_of_success hin hl hstatus
    refine ⟨?_, ?_, fun told => reported_mem_events_iff hin hl hstatus⟩
    · intro t
      rw [hresult, ← Utf8.decode_eq_ok_iff]
      cases Utf8.decode e.stdout <;> simp [Except.mapError]
    · intro error
      rw [hresult]
      cases hdecode : Utf8.decode e.stdout with
      | ok t =>
        have hvalid : Utf8.Valid e.stdout := ⟨t, Utf8.decode_eq_ok_iff.mp hdecode⟩
        simp [Except.mapError, hvalid]
      | error d =>
        obtain ⟨hvalid, hspoils⟩ := Utf8.decode_eq_error_iff.mp hdecode
        simp only [Except.mapError, Except.error.injEq]
        constructor
        · intro herror
          exact ⟨hvalid, d, herror.symm, hspoils, Utf8.length_le_of_decode_error hdecode⟩
        · intro herror
          obtain ⟨-, d', rfl, hspoils', -⟩ := herror
          rw [hspoils.unique hspoils']
  · intro hstatus
    simp only [run, run_of_failed hin hl hstatus]
    rfl
  · intro t hdecode
    simp only [lossy, Utf8.decode_eq_ok_iff.mp hdecode, Utf8.decodeLossy_encode]
  · intro d hdecode
    exact ⟨Utf8.spoils_of_decode_error hdecode, Utf8.decodeLossy_of_error hdecode⟩

def cutEnded : Ended where
  status := .exited 0
  stdout := [0x41, 0xE2, 0x82, 0x61]
  stderr := [0x20, 0x62, 0xF0, 0x9F, 0x98, 0x61, 0xC3]
  files := ⟨[], []⟩

def cutHost : Host where
  files := ⟨[(["a".toList], .regular [] false)], []⟩
  launch _ _ := .ended cutEnded

/-- Bytes that could have begun one character count as one defect. -/
theorem cutHost_decodes_streams :
    let run := ((⟨"cat".toList, []⟩ : Preprocessor).run cutHost "a".toList).start cutHost
    run.1 = .error (.invalidUtf8 ⟨1, some 2⟩) ∧
      Utf8.Defect.Spoils ⟨1, some 2⟩ cutEnded.stdout ∧
      .reported "cat".toList "b\uFFFDa\uFFFD".toList ∈ run.2.events ∧
      Utf8.Defect.Spoils ⟨2, some 3⟩ cutEnded.stderr ∧
      ∃ t, Utf8.decode [0x20, 0x62] = .ok t ∧
        Utf8.decodeLossy cutEnded.stderr = t ++ '\uFFFD' :: Utf8.decodeLossy [0x61, 0xC3] := by
  intro run
  obtain ⟨hsuccess, -, -, hlossy⟩ :=
    run_decodes_streams ⟨"cat".toList, []⟩ cutHost "a".toList (by decide) rfl
  obtain ⟨-, herror, htold⟩ := hsuccess rfl
  have hresult : run.1 = .error (.invalidUtf8 ⟨1, some 2⟩) := by decide +kernel
  obtain ⟨-, d, hd, hspoils, -⟩ := (herror _).mp hresult
  obtain rfl := Error.invalidUtf8.inj hd
  have hstderr : Utf8.decode cutEnded.stderr = .error ⟨2, some 3⟩ := by decide +kernel
  obtain ⟨hspoils', hreplaced⟩ := hlossy _ hstderr
  exact ⟨hresult, hspoils, (htold _).mpr (by decide +kernel), hspoils', hreplaced⟩

end DatalogDoc.Preprocessor
