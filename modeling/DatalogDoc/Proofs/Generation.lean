import DatalogDoc.Generate
import Mathlib

/-!
# The course of a run

Each stage of a run can fail for a reason of its own. The first one that does decides about the
failure, and the events tell how far the run came.
-/

namespace DatalogDoc

def Ended.complaint (e : Ended) : Text := trim (Utf8.decodeLossy e.stderr)

namespace Event

def declarations : Event → Nat
  | sectionExtracted _ n | referenceExtracted _ _ n => n
  | _ => 0

def leveled (e : Event) : Level × Event := (e.level, e)

end Event

/-- What is told about a reference: first about each section, then about all of them, then about
each name that is documented more than once. -/
def Reference.tale (input : Text) (r : Reference) : List (Level × Event) :=
  let found := r.sections.map Event.ofSection
  found.map (Level.debug, ·) ++
    (.info, .referenceExtracted input found.length (found.map Event.declarations).sum) ::
      r.duplicates.map fun (name, count) => (.warn, .duplicate name count)

namespace Config

def launch (config : Config) (host : Host) : Launch :=
  host.launch config.preprocessor.program (config.preprocessor.arguments ++ [config.input])

def Yields (config : Config) (host : Host) (r : Reference) : Prop :=
  ∃ e t, config.launch host = .ended e ∧ Utf8.decode e.stdout = .ok t ∧
    Reference.extract config.mode t = .ok r

/-- What is told about a preprocessor that has succeeded and what it leaves. -/
def tale (config : Config) (e : Ended) : List (Level × Event) :=
  (if e.complaint = [] then [] else [(.warn, .reported config.preprocessor.program e.complaint)]) ++
    match Utf8.decode e.stdout with
    | .error _ => []
    | .ok t =>
      (.debug, .preprocessed e.stdout.length) ::
        match Reference.extract config.mode t with
        | .error _ => []
        | .ok r => r.tale config.input

end Config

inductive Stage
  | input
  | lookup
  | start
  | exit
  | decoding
  | scan
  | sections

namespace Stage

def rank : Stage → Nat
  | input => 0
  | lookup => 1
  | start => 2
  | exit => 3
  | decoding => 4
  | scan => 5
  | sections => 6

/-- The ways in which a stage can fail, whatever becomes of the others. -/
inductive Fails (host : Host) (config : Config) : Stage → Error → Prop
  | input (h : host.files.exists? config.input = false) :
    Fails host config .input (.inputNotFound config.input)
  | lookup (h : config.launch host = .notFound) :
    Fails host config .lookup (.preprocessorNotFound config.preprocessor.program)
  | start {reason : Refusal} (h : config.launch host = .refused reason) :
    Fails host config .start (.notStarted config.preprocessor.program reason)
  | exit {e : Ended} (h : config.launch host = .ended e) (hstatus : e.status ≠ .exited 0) :
    Fails host config .exit (.preprocessorFailed config.preprocessor.program e.status e.complaint)
  | decoding {e : Ended} {defect : Utf8.Defect} (h : config.launch host = .ended e)
      (hdecode : Utf8.decode e.stdout = .error defect) :
    Fails host config .decoding (.invalidUtf8 defect)
  | scan {e : Ended} {t : Text} {error : ScanError} (h : config.launch host = .ended e)
      (hdecode : Utf8.decode e.stdout = .ok t)
      (hextract : Reference.extract config.mode t = .error error) :
    Fails host config .scan (.scan error)
  | sections {r : Reference} (h : config.Yields host r) (hempty : r.sections = [])
      (hallow : config.allowEmpty = false) :
    Fails host config .sections (.noSections config.input)

variable {host : Host} {config : Config} {s : Stage} {error : Error} {e : Ended}

def Passes (host : Host) (config : Config) (s : Stage) : Prop :=
  ∀ error, ¬ Fails host config s error

def Reached (host : Host) (config : Config) (s : Stage) : Prop :=
  ∀ s' : Stage, s'.rank < s.rank → Passes host config s'

/-- The failure of the first stage that fails. -/
def FirstFailure (host : Host) (config : Config) (error : Error) : Prop :=
  ∃ s, Fails host config s error ∧ Reached host config s

theorem exists_firstFailure (h : ¬ ∀ s, Passes host config s) :
    ∃ error, FirstFailure host config error := by
  obtain ⟨s, hs, hmin⟩ :=
    WellFounded.has_min (measure rank).wf {s | ¬ Passes host config s} (not_forall.mp h)
  obtain ⟨error, herror⟩ := not_forall_not.mp hs
  exact ⟨error, s, herror, fun s' hs' => not_not.mp fun hfails => hmin s' hfails hs'⟩

theorem exists_of_passes (h : Passes host config .input) :
    host.files.exists? config.input = true := by
  by_contra hmissing
  exact h _ (.input (Bool.not_eq_true _ ▸ hmissing))

theorem ended_of_passes (hlookup : Passes host config .lookup)
    (hstart : Passes host config .start) : ∃ e, config.launch host = .ended e := by
  cases hl : config.launch host with
  | notFound => exact absurd (.lookup hl) (hlookup _)
  | refused reason => exact absurd (.start hl) (hstart _)
  | ended e => exact ⟨e, rfl⟩

theorem status_of_passes (h : Passes host config .exit) (hl : config.launch host = .ended e) :
    e.status = .exited 0 := by
  by_contra hstatus
  exact h _ (.exit hl hstatus)

theorem reached_decoding_iff :
    Reached host config .decoding ↔ host.files.exists? config.input = true ∧
      ∃ e, config.launch host = .ended e ∧ e.status = .exited 0 := by
  constructor
  · intro h
    obtain ⟨e, hl⟩ := ended_of_passes (h .lookup (by decide)) (h .start (by decide))
    exact ⟨exists_of_passes (h .input (by decide)), e, hl,
      status_of_passes (h .exit (by decide)) hl⟩
  · intro h s hs error hfails
    obtain ⟨hin, e, hl, hstatus⟩ := h
    cases hfails with
    | input h => exact absurd hin (by simp [h])
    | lookup h => exact absurd hl (by simp [h])
    | start h => exact absurd hl (by simp [h])
    | exit h hne =>
      rw [hl, Launch.ended.injEq] at h
      exact hne (h ▸ hstatus)
    | decoding | scan | sections => simp [rank] at hs

end Stage

/-! The preprocessor. -/

namespace Preprocessor

variable {p : Preprocessor} {host : Host} {input : Text} {e : Ended}

theorem run_of_missing (h : host.files.exists? input = false) :
    (p.run host input).start host = (.error (.inputNotFound input), { files := host.files }) := by
  simp [run, Job.start, h]

theorem run_of_notFound (h : host.files.exists? input = true)
    (hl : host.launch p.program (p.arguments ++ [input]) = .notFound) :
    (p.run host input).start host =
      (.error (.preprocessorNotFound p.program), { files := host.files }) := by
  simp [run, Job.start, h, hl]

theorem run_of_refused {reason : Refusal} (h : host.files.exists? input = true)
    (hl : host.launch p.program (p.arguments ++ [input]) = .refused reason) :
    (p.run host input).start host =
      (.error (.notStarted p.program reason), { files := host.files }) := by
  simp [run, Job.start, h, hl]

theorem run_of_failed (h : host.files.exists? input = true)
    (hl : host.launch p.program (p.arguments ++ [input]) = .ended e)
    (hstatus : e.status ≠ .exited 0) :
    (p.run host input).start host =
      (.error (.preprocessorFailed p.program e.status e.complaint), { files := e.files }) := by
  simp [run, Job.start, Job.perform_bind, h, hl, Status.isSuccess, hstatus, Ended.complaint]

def reports (p : Preprocessor) (e : Ended) : List Event :=
  if e.complaint = [] then [] else [.reported p.program e.complaint]

theorem perform_report (next : Job Text) (q : Progress) :
    (if trim (Utf8.decodeLossy e.stderr) = [] then next
      else do
        Job.log [.reported p.program (trim (Utf8.decodeLossy e.stderr))]
        next).perform q = next.perform (q.tell (p.reports e)) := by
  by_cases hc : trim (Utf8.decodeLossy e.stderr) = []
  · simp [reports, Ended.complaint, hc]
  · simp [reports, Ended.complaint, hc, Job.perform_bind]

theorem run_of_success (h : host.files.exists? input = true)
    (hl : host.launch p.program (p.arguments ++ [input]) = .ended e)
    (hstatus : e.status = .exited 0) :
    (p.run host input).start host =
      let q := (Progress.mk e.files [] []).tell (p.reports e)
      match Utf8.decode e.stdout with
      | .error defect => (.error (.invalidUtf8 defect), q)
      | .ok t => (.ok t, q.tell [.preprocessed e.stdout.length]) := by
  cases hdecode : Utf8.decode e.stdout with
  | error defect =>
    simp [run, Job.start, Job.perform_bind, h, hl, Status.isSuccess, hstatus, perform_report,
      hdecode]
  | ok t =>
    simp [run, Job.start, Job.perform_bind, h, hl, Status.isSuccess, hstatus, perform_report,
      hdecode, Except.map]

end Preprocessor

/-! The reference. -/

namespace Config

variable {host : Host} {config : Config} {p : Progress} {e : Ended}

def news (config : Config) (r : Reference) : List Event :=
  r.sections.map Event.ofSection ++
    .referenceExtracted config.input r.sections.length r.declarationCount ::
      r.duplicates.map fun (name, count) => .duplicate name count

theorem map_leveled_news (r : Reference) :
    (config.news r).map Event.leveled = r.tale config.input := by
  simp [news, Reference.tale, Reference.declarationCount, Reference.declarations, Event.leveled,
    Event.level, Event.ofSection, Event.declarations, Function.comp_def, List.length_flatMap]

def verdict (config : Config) (t : Text) : Except Error Reference :=
  match Reference.extract config.mode t with
  | .error error => .error (.scan error)
  | .ok r =>
    if r.sections = [] ∧ config.allowEmpty = false then .error (.noSections config.input) else .ok r

theorem generate_of_error {error : Error}
    (h : (config.preprocessor.run host config.input).start host = (.error error, p)) :
    (generate host config).start host = (.error error, p) :=
  Job.perform_bind_of_error h

theorem generate_of_text {t : Text}
    (h : (config.preprocessor.run host config.input).start host = (.ok t, p)) :
    (generate host config).start host =
      (config.verdict t,
        p.tell (match Reference.extract config.mode t with
          | .error _ => []
          | .ok r => config.news r)) := by
  rw [generate, Job.start, Job.perform_bind_of_ok h, verdict]
  cases hextract : Reference.extract config.mode t with
  | error error => simp [Reference.extracting, hextract]
  | ok r =>
    by_cases hempty : r.sections = [] ∧ config.allowEmpty = false
    · simp [Reference.extracting, hextract, Job.perform_bind, Reference.isEmpty, hempty, news]
    · simp [Reference.extracting, hextract, Job.perform_bind, Reference.isEmpty, hempty, news,
        Except.map]

def outcome (config : Config) (e : Ended) : Except Error Reference :=
  match Utf8.decode e.stdout with
  | .error defect => .error (.invalidUtf8 defect)
  | .ok t => config.verdict t

def reports (config : Config) (e : Ended) : List Event :=
  config.preprocessor.reports e ++
    match Utf8.decode e.stdout with
    | .error _ => []
    | .ok t =>
      .preprocessed e.stdout.length ::
        match Reference.extract config.mode t with
        | .error _ => []
        | .ok r => config.news r

theorem map_leveled_reports (e : Ended) : (config.reports e).map Event.leveled = config.tale e := by
  rw [reports, tale, List.map_append]
  congr 1
  · rw [Preprocessor.reports]
    split_ifs <;> rfl
  · cases Utf8.decode e.stdout with
    | error defect => rfl
    | ok t =>
      rw [List.map_cons]
      congr 1
      cases Reference.extract config.mode t with
      | error error => rfl
      | ok r => exact map_leveled_news r

theorem generate_of_success (h : host.files.exists? config.input = true)
    (hl : config.launch host = .ended e) (hstatus : e.status = .exited 0) :
    (generate host config).start host =
      (config.outcome e, (Progress.mk e.files [] []).tell (config.reports e)) := by
  have hrun := Preprocessor.run_of_success h hl hstatus
  rw [outcome, reports]
  cases hdecode : Utf8.decode e.stdout with
  | error defect =>
    rw [hdecode] at hrun
    simpa using generate_of_error hrun
  | ok t =>
    rw [hdecode] at hrun
    simpa using generate_of_text hrun

/-- The files as the preprocessor leaves them, if it comes to run. -/
def left (config : Config) (host : Host) : Files :=
  match host.files.exists? config.input, config.launch host with
  | true, .ended e => e.files
  | _, _ => host.files

theorem generate_of_not_reached (h : ¬ Stage.Reached host config .decoding) :
    ((generate host config).start host).2 = { files := config.left host } := by
  cases hin : host.files.exists? config.input with
  | false => rw [generate_of_error (Preprocessor.run_of_missing hin), left, hin]
  | true =>
    cases hl : config.launch host with
    | notFound => rw [generate_of_error (Preprocessor.run_of_notFound hin hl), left, hin, hl]
    | refused reason => rw [generate_of_error (Preprocessor.run_of_refused hin hl), left, hin, hl]
    | ended e =>
      have hstatus : e.status ≠ .exited 0 := fun hstatus =>
        h (Stage.reached_decoding_iff.mpr ⟨hin, e, hl, hstatus⟩)
      rw [generate_of_error (Preprocessor.run_of_failed hin hl hstatus), left, hin, hl]

theorem generate_of_reached (h : Stage.Reached host config .decoding) :
    ∃ e, config.launch host = .ended e ∧
      (generate host config).start host =
        (config.outcome e, (Progress.mk (config.left host) [] []).tell (config.reports e)) := by
  obtain ⟨hin, e, hl, hstatus⟩ := Stage.reached_decoding_iff.mp h
  refine ⟨e, hl, ?_⟩
  rw [generate_of_success hin hl hstatus, left, hin, hl]

theorem start_generate {result : Except Error Reference}
    (h : ((generate host config).start host).1 = result) :
    ∃ events, (generate host config).start host =
      (result, (Progress.mk (config.left host) [] []).tell events) := by
  by_cases hreached : Stage.Reached host config .decoding
  · obtain ⟨e, -, hstart⟩ := generate_of_reached hreached
    exact ⟨config.reports e, Prod.ext h (by rw [hstart])⟩
  · refine ⟨[], Prod.ext h ?_⟩
    rw [generate_of_not_reached hreached, Progress.tell_nil]

end Config

namespace Stage

variable {host : Host} {config : Config} {s : Stage} {error : Error}

theorem Fails.generate (h : Fails host config s error) (hr : Reached host config s) :
    ((generate host config).start host).1 = .error error := by
  have hin (hs : 0 < s.rank) := exists_of_passes (hr .input hs)
  have hstatus {e : Ended} (hs : 3 < s.rank) (hl : config.launch host = .ended e) :=
    status_of_passes (hr .exit hs) hl
  cases h with
  | input h => rw [Config.generate_of_error (Preprocessor.run_of_missing h)]
  | lookup h => rw [Config.generate_of_error (Preprocessor.run_of_notFound (hin (by decide)) h)]
  | start h => rw [Config.generate_of_error (Preprocessor.run_of_refused (hin (by decide)) h)]
  | exit h hne => rw [Config.generate_of_error (Preprocessor.run_of_failed (hin (by decide)) h hne)]
  | decoding h hdecode =>
    rw [Config.generate_of_success (hin (by decide)) h (hstatus (by decide) h)]
    simp [Config.outcome, hdecode]
  | scan h hdecode hextract =>
    rw [Config.generate_of_success (hin (by decide)) h (hstatus (by decide) h)]
    simp [Config.outcome, hdecode, Config.verdict, hextract]
  | sections h hempty hallow =>
    obtain ⟨e, t, hl, hdecode, hextract⟩ := h
    rw [Config.generate_of_success (hin (by decide)) hl (hstatus (by decide) hl)]
    simp [Config.outcome, hdecode, Config.verdict, hextract, hempty, hallow]

theorem exists_of_all_pass (h : ∀ s, Passes host config s) :
    ∃ r, config.Yields host r ∧ ((generate host config).start host).1 = .ok r := by
  obtain ⟨e, hl, hstart⟩ := Config.generate_of_reached fun s (_ : s.rank < rank .decoding) => h s
  cases hdecode : Utf8.decode e.stdout with
  | error defect => exact absurd (.decoding hl hdecode) (h .decoding _)
  | ok t =>
    cases hextract : Reference.extract config.mode t with
    | error error => exact absurd (.scan hl hdecode hextract) (h .scan _)
    | ok r =>
      have hyields : config.Yields host r := ⟨e, t, hl, hdecode, hextract⟩
      have hkept : ¬ (r.sections = [] ∧ config.allowEmpty = false) := fun hempty =>
        h .sections _ (.sections hyields hempty.1 hempty.2)
      refine ⟨r, hyields, ?_⟩
      simp only [hstart, Config.outcome, hdecode, Config.verdict, hextract, if_neg hkept]

theorem generate_eq_error_iff :
    ((generate host config).start host).1 = .error error ↔ FirstFailure host config error := by
  constructor
  · intro h
    by_cases hpass : ∀ s, Passes host config s
    · obtain ⟨r, -, hok⟩ := exists_of_all_pass hpass
      rw [h] at hok
      cases hok
    · obtain ⟨error', s, hfails, hreached⟩ := exists_firstFailure hpass
      have hfirst := hfails.generate hreached
      rw [h, Except.error.injEq] at hfirst
      exact hfirst ▸ ⟨s, hfails, hreached⟩
  · intro h
    obtain ⟨s, hfails, hreached⟩ := h
    exact hfails.generate hreached

end Stage

theorem Config.Yields.unique {host : Host} {config : Config} {r s : Reference}
    (hr : config.Yields host r) (hs : config.Yields host s) : r = s := by
  obtain ⟨e, t, hl, hdecode, hextract⟩ := hr
  obtain ⟨e', t', hl', hdecode', hextract'⟩ := hs
  rw [hl, Launch.ended.injEq] at hl'
  subst hl'
  rw [hdecode, Except.ok.injEq] at hdecode'
  subst hdecode'
  rw [hextract, Except.ok.injEq] at hextract'
  exact hextract'

theorem Stage.generate_eq_ok_iff {host : Host} {config : Config} {r : Reference} :
    ((generate host config).start host).1 = .ok r ↔
      (∀ s, Passes host config s) ∧ config.Yields host r := by
  constructor
  · intro h
    have hpass : ∀ s, Passes host config s := by
      by_contra hfails
      obtain ⟨error, hfirst⟩ := exists_firstFailure hfails
      rw [generate_eq_error_iff.mpr hfirst] at h
      cases h
    obtain ⟨r', hyields, hok⟩ := exists_of_all_pass hpass
    rw [h, Except.ok.injEq] at hok
    exact ⟨hpass, hok ▸ hyields⟩
  · intro h
    obtain ⟨r', hyields, hok⟩ := exists_of_all_pass h.1
    rw [hok, hyields.unique h.2]

/-- The failure of a run is that of its first failing stage, and a run in which none fails ends with
the reference that the preprocessor's output holds. Nothing is told where one of the first four
stages fails. Otherwise the events tell about the preprocessor and, as far as it could be read,
about what it left. -/
theorem generate_follows_stages (host : Host) (config : Config) :
    let run := (generate host config).start host
    (∀ error, run.1 = .error error ↔ Stage.FirstFailure host config error) ∧
      (∀ r, run.1 = .ok r ↔ (∀ s, Stage.Passes host config s) ∧ config.Yields host r) ∧
      (∀ error, run.1 = .error (.scan error) → config.mode = .balanced) ∧
      (¬ Stage.Reached host config .decoding → run.2.events = []) ∧
      (Stage.Reached host config .decoding → ∃ e, config.launch host = .ended e ∧
        run.2.events.map (fun event => (event.level, event)) = config.tale e) ∧
      ((∃ path, run.1 = .error (.noSections path)) ↔ Stage.Reached host config .sections ∧
        ∃ r, config.Yields host r ∧ r.sections = [] ∧ config.allowEmpty = false) := by
  intro run
  refine ⟨fun error => Stage.generate_eq_error_iff, fun r => Stage.generate_eq_ok_iff, ?_, ?_, ?_,
    ?_⟩
  · intro error h
    obtain ⟨s, hfails, -⟩ := Stage.generate_eq_error_iff.mp h
    cases hfails with
    | scan _ _ hextract =>
      cases hmode : config.mode with
      | balanced => rfl
      | lazy => simp [hmode, Reference.extract_lazy] at hextract
  · intro h
    simp only [run, Config.generate_of_not_reached h]
    rfl
  · intro h
    obtain ⟨e, hl, hstart⟩ := Config.generate_of_reached h
    refine ⟨e, hl, ?_⟩
    simp only [run, hstart, Progress.events_tell]
    exact Config.map_leveled_reports e
  · constructor
    · intro h
      obtain ⟨path, hpath⟩ := h
      obtain ⟨s, hfails, hreached⟩ := Stage.generate_eq_error_iff.mp hpath
      cases hfails with
      | sections h hempty hallow => exact ⟨hreached, _, h, hempty, hallow⟩
    · intro h
      obtain ⟨hreached, r, hyields, hempty, hallow⟩ := h
      exact ⟨config.input, (Stage.Fails.sections hyields hempty hallow).generate hreached⟩

def garbledHost : Host where
  files := ⟨[(["a".toList], .regular [] false)], []⟩
  launch _ _ := .ended ⟨.exited 0, [0xFF], "w\n".toUTF8.toList, ⟨[], []⟩⟩

theorem garbledHost_follows_stages :
    let config : Config := { input := "a".toList }
    let run := (generate garbledHost config).start garbledHost
    Stage.FirstFailure garbledHost config (.invalidUtf8 ⟨0, some 1⟩) ∧
      ∃ e, config.launch garbledHost = .ended e ∧
        run.2.events.map (fun event => (event.level, event)) = config.tale e ∧
        config.tale e = [(.warn, .reported "mcpp".toList "w".toList)] := by
  obtain ⟨hfails, -, -, -, htold, -⟩ := generate_follows_stages garbledHost { input := "a".toList }
  have hfirst := (hfails (.invalidUtf8 ⟨0, some 1⟩)).mp (by decide +kernel)
  obtain ⟨e, hl, hevents⟩ := htold (Stage.reached_decoding_iff.mpr ⟨by decide, _, rfl, rfl⟩)
  refine ⟨hfirst, e, hl, hevents, ?_⟩
  cases hl
  decide +kernel

end DatalogDoc
