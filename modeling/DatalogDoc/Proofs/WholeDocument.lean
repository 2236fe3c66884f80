import DatalogDoc.Program
import DatalogDoc.Proofs.Decoding
import DatalogDoc.Proofs.Generation
import DatalogDoc.Proofs.Writing

/-!
# A whole document or none

A run that makes no reference writes nothing. One that makes a reference writes its whole document,
unless what it writes to cannot be opened or has no room for it, or standard error has ended the run
before.
-/

namespace DatalogDoc

namespace Files

variable {files made : Files} {t : Text} {p : Path} {keep : Bool}

theorem createAt_of_create (h : files.create t keep = .ok (p, made)) :
    files.createAt p keep = .ok (p, made) := by
  have hplace : ∃ q, files.createAt q keep = .ok (p, made) := by
    simp only [create, bind, Except.bind] at h
    split at h
    · cases h
    · split at h
      · cases h
      · split at h
        · cases h
        · exact ⟨_, h⟩
  obtain ⟨q, hq⟩ := hplace
  have hpq : q = p := by
    rw [createAt] at hq
    split at hq <;> simp_all
  exact hpq ▸ hq

/-- A device stays as it is when it is opened, and anything else is an empty file then. -/
theorem create_eq_ok (h : files.create t false = .ok (p, made)) :
    (∃ d, files.get? p = some (.device d)) ∧ made = files ∨
      (∀ d, files.get? p ≠ some (.device d)) ∧ p ≠ [] ∧
        ∃ executable, made = files.put p (.regular [] executable) := by
  have hat := createAt_of_create h
  have hroot : files.get? p ≠ some .directory → p ≠ [] := by
    rintro hne rfl
    exact hne (by simp [get?])
  rw [createAt] at hat
  cases hnode : files.get? p with
  | none =>
    simp only [hnode, Except.ok.injEq, Prod.mk.injEq, true_and] at hat
    exact .inr ⟨by simp, hroot (by simp [hnode]), _, hat.symm⟩
  | some node =>
    cases node with
    | directory => simp [hnode] at hat
    | regular content executable =>
      simp [hnode] at hat
      exact .inr ⟨by simp, hroot (by simp [hnode]), _, hat.symm⟩
    | tool t =>
      simp [hnode] at hat
      exact .inr ⟨by simp, hroot (by simp [hnode]), _, hat.symm⟩
    | device d =>
      refine .inl ⟨⟨d, rfl⟩, ?_⟩
      cases d <;> simp_all

end Files

namespace Host

variable (host : Host) (files : Files) (told : Bytes) (p : Path)

theorem create_eq_ok {host : Host} {files made : Files} {path : Text} {p : Path}
    (h : host.create files path = .ok (p, made)) : files.create path false = .ok (p, made) := by
  rw [create] at h
  split at h
  · cases h
  · exact h

theorem length_taken_le {o : Outlet} {n : Nat} {e : OsError} (h : host.limit o = some (n, e)) :
    (host.taken o told).length ≤ n := by
  rw [taken, h]
  exact List.length_take_le n told

theorem fresh_writer (outlet : Outlet) : (host.writer outlet).Fresh :=
  ⟨fun n _ _ => Nat.zero_le n, rfl⟩

theorem fresh_writerAt : (host.writerAt files told p).Fresh := by
  rw [writerAt]
  split
  · refine ⟨fun n e hlimit => ?_, rfl⟩
    dsimp only
    split_ifs with hstream
    · subst hstream
      exact host.length_taken_le told hlimit
    · exact Nat.zero_le n
  · exact ⟨fun n _ _ => Nat.zero_le n, rfl⟩
  · exact host.fresh_writer _

theorem outlet_writerAt :
    (∃ n, (host.writerAt files told p).outlet = .stream n) ∨
      (host.writerAt files told p).outlet = .file p := by
  rw [writerAt]
  split
  · exact .inl ⟨_, rfl⟩
  · exact .inr rfl
  · exact .inr rfl

end Host

namespace Job

variable {host : Host} {told : Bytes} {path : Text} {p : Progress}

theorem perform_openOutput_none :
    (openOutput host told none).perform p = (.ok (host.writer (.stream 1)), p) := rfl

theorem perform_openOutput_error {e : OsError} (h : host.create p.files path = .error e) :
    (openOutput host told (some path)).perform p = (.error (.notWritten e), p) := by
  simp [openOutput, perform_bind, h]

theorem perform_openOutput_ok {place : Path} {files : Files}
    (h : host.create p.files path = .ok (place, files)) :
    (openOutput host told (some path)).perform p =
      (.ok (host.writerAt files told place), { p with files }) := by
  simp [openOutput, perform_bind, h, Except.map]

theorem openOutput_cases (host : Host) (told : Bytes) (output : Option Text) (files : Files) :
    (∃ path e, output = some path ∧ host.create files path = .error e) ∨
      ∃ w made, w.Fresh ∧ ∀ p : Progress, p.files = files →
        (openOutput host told output).perform p = (.ok w, { p with files := made }) := by
  cases output with
  | none =>
    refine .inr ⟨host.writer (.stream 1), files, host.fresh_writer _, fun p hp => ?_⟩
    subst hp
    exact perform_openOutput_none
  | some path =>
    cases hcreate : host.create files path with
    | error e => exact .inl ⟨path, e, rfl, hcreate⟩
    | ok opened =>
      obtain ⟨place, made⟩ := opened
      refine .inr ⟨_, made, host.fresh_writerAt made told place, fun p hp => ?_⟩
      subst hp
      exact perform_openOutput_ok hcreate

end Job

namespace Console

variable {c : Console} {result : Except Error Unit} {p : Progress}

theorem stops_eq_true_iff {notes : List Note} :
    c.stops notes = true ↔ c.host.insistent = true ∧ c.heard (c.bytes notes) ≠ c.bytes notes := by
  simp [stops]

theorem said_ok : c.said (.ok ()) p = c.bytes p.notes := List.append_nil _

theorem said_error {log : Text} (h : c.bytes p.notes = Utf8.encode log) (e : Error) :
    c.said (.error e) p = Utf8.encode (log ++ e.report c.host.styling) := by
  rw [said, h]
  exact List.flatMap_append.symm

theorem status_eq_zero_iff :
    c.status result p = 0 ↔ result = .ok () ∧
      (c.host.insistent = true → c.heard (c.said result p) = c.said result p) := by
  cases result with
  | ok _ =>
    have hstops : c.stops p.notes = true ↔ _ := stops_eq_true_iff
    rw [status, said_ok]
    split_ifs with h
    · simp [hstops.mp h]
    · simpa [hstops] using h
  | error e =>
    rw [status]
    split_ifs <;> simp

theorem status_eq_one_iff :
    c.status result p = 1 ↔ result ≠ .ok () ∧ c.heard (c.said result p) = c.said result p := by
  cases result with
  | ok _ =>
    rw [status]
    split_ifs <;> simp
  | error e =>
    rw [status]
    split_ifs with h <;> simp [h]

theorem status_of_unheard (h : result ≠ .ok ())
    (hsaid : c.heard (c.said result p) ≠ c.said result p) : c.status result p = 101 := by
  cases result with
  | ok _ => exact absurd rfl h
  | error e => exact if_neg hsaid

theorem status_cases (c : Console) (result : Except Error Unit) (p : Progress) :
    c.status result p = 0 ∨ c.status result p = 1 ∨ c.status result p = 101 := by
  cases result with
  | ok _ =>
    rw [status]
    split_ifs <;> simp
  | error e =>
    rw [status]
    split_ifs <;> simp

theorem exists_bytes_tell (c : Console) (files : Files) (events : List Event) :
    ∃ lines, c.bytes ((Progress.mk files [] []).tell events).notes = Utf8.encode lines := by
  refine ⟨events.flatMap fun e =>
    if c.filter.shows e then e.line c.host.styling c.time else [], ?_⟩
  rw [Utf8.encode, List.flatMap_assoc]
  change (events.map Note.event).flatMap c.noteBytes = _
  rw [List.flatMap_map]
  refine List.flatMap_congr fun e _ => ?_
  rw [noteBytes]
  split_ifs <;> rfl

end Console

def Arguments.document (a : Arguments) (r : Reference) : Bytes :=
  Utf8.encode (a.config.layout.document r)

namespace Program

/-- An outlet that was open, with some files at that time, has been written to: all of a document if
it has room for it, and else a front. -/
def Wrote (outcome : Except Error Unit × Progress) (w : Writer) (files : Files)
    (document : Bytes) : Prop :=
  ∃ p q sent, p.files = files ∧ p.stdout = [] ∧ w.outlet.Takes p sent q ∧
    outcome.2.stdout = q.stdout ∧ outcome.2.files = q.files ∧
    (w.Accepts document ∧ sent = document ∧ outcome.1 = .ok () ∨
      ¬ w.Accepts document ∧ sent <+: document ∧ outcome.1 ≠ .ok ())

variable {console : Console} {a : Arguments} {r : Reference} {p : Progress}

def send (a : Arguments) (r : Reference) (w : Writer) : Job Unit := do
  let _ ← w.write (a.config.layout.pieces r) >>= Writer.flush
  Job.log (a.output.toList.map .written)

theorem perform_publish (console : Console) (a : Arguments) (r : Reference) (p : Progress) :
    (publish console a r).perform p =
      (Job.openOutput console.host (console.bytes p.notes) a.output >>= fun w =>
        send a r w).perform p := by
  have hpublish : publish console a r = get >>= fun p =>
      Job.openOutput console.host (console.bytes p.notes) a.output >>= fun w => send a r w := by
    simp only [publish, send, bind_assoc]
  rw [hpublish]
  exact Job.perform_bind_of_ok (Job.perform_get p)

theorem publish_of_error {path : Text} {e : OsError} (hpath : a.output = some path)
    (hcreate : console.host.create p.files path = .error e) :
    (publish console a r).perform p = (.error (.notWritten e), p) := by
  rw [perform_publish, hpath]
  exact Job.perform_bind_of_error (Job.perform_openOutput_error hcreate)

theorem send_ensures {w : Writer} (hw : w.Fresh) (p : Progress) :
    (send a r w).Ensures p
      (fun _ q => ∃ p', w.outlet.Takes p (a.document r) p' ∧ w.Accepts (a.document r) ∧
        q.stdout = p'.stdout ∧ q.files = p'.files)
      (w.Refused p (a.document r)) := by
  refine (hw.write_flush p (a.config.layout.pieces r)).bind fun w' q hq => ?_
  exact ⟨q, hq.1, hq.2, Progress.stdout_tell _ _, Progress.files_tell _ _⟩

theorem publish_wrote {w : Writer} {files : Files} (hstdout : p.stdout = []) (hw : w.Fresh)
    (hopen : (Job.openOutput console.host (console.bytes p.notes) a.output).perform p =
      (.ok w, { p with files })) :
    Wrote ((publish console a r).perform p) w files (a.document r) := by
  have hsend := send_ensures (a := a) (r := r) hw { p with files }
  rw [perform_publish, Job.perform_bind_of_ok hopen]
  rw [Job.Ensures] at hsend
  rcases hend : (send a r w).perform { p with files } with ⟨result, q⟩
  rw [hend] at hsend
  cases result with
  | ok _ =>
    obtain ⟨p', htakes, haccepts, hout, hkept⟩ := hsend
    exact ⟨{ p with files }, p', _, rfl, hstdout, htakes, hout, hkept, .inl ⟨haccepts, rfl, rfl⟩⟩
  | error e =>
    obtain ⟨hroom, -, sent, htakes, hsent⟩ := hsend
    have hfails : (Except.error e : Except Error Unit) ≠ .ok () := by simp
    exact ⟨{ p with files }, q, sent, rfl, hstdout, htakes, rfl, rfl,
      .inr ⟨hroom, hsent, hfails⟩⟩

theorem Wrote.ok_iff {outcome : Except Error Unit × Progress} {w : Writer} {files : Files}
    {document : Bytes} (h : Wrote outcome w files document) :
    outcome.1 = .ok () ↔ w.Accepts document := by
  obtain ⟨_, _, _, _, _, _, _, _, ⟨haccepts, -, hok⟩ | ⟨hroom, -, hfails⟩⟩ := h
  · exact ⟨fun _ => haccepts, fun _ => hok⟩
  · exact ⟨fun hok => absurd hok hfails, fun haccepts => absurd haccepts hroom⟩

/-! ### A run up to its end -/

variable (console)

theorem produce_of_error {e : Error}
    (h : (generate console.host a.config).start console.host = (.error e, p)) :
    (produce console a).start console.host = (.error e, p) :=
  Job.perform_bind_of_error h

theorem produce_of_ok (h : (generate console.host a.config).start console.host = (.ok r, p)) :
    (produce console a).start console.host =
      if console.stops p.notes then (.ok (), p) else (publish console a r).perform p := by
  refine (Job.perform_bind_of_ok h).trans ?_
  refine (Job.perform_bind_of_ok (Job.perform_get p)).trans ?_
  cases console.stops p.notes <;> rfl

theorem produce_cases
    (h : ((generate console.host a.config).start console.host).1 = .ok r) :
    ∃ p, p = ((generate console.host a.config).start console.host).2 ∧
      p.files = a.config.left console.host ∧ p.stdout = [] ∧
      (console.stops p.notes = true ∧ (produce console a).start console.host = (.ok (), p) ∨
        (produce console a).start console.host = (publish console a r).perform p) := by
  obtain ⟨events, hmade⟩ := Config.start_generate h
  refine ⟨_, rfl, by rw [hmade]; rfl, by rw [hmade]; rfl, ?_⟩
  rw [produce_of_ok console hmade, hmade]
  split_ifs with hstops
  · exact .inl ⟨hstops, rfl⟩
  · exact .inr rfl

/-- A reference is made, and what is opened for its document has room for it. -/
def Delivers (console : Console) (a : Arguments) : Prop :=
  let generated := (generate console.host a.config).start console.host
  ∃ r w, generated.1 = .ok r ∧
    ((Job.openOutput console.host (console.bytes generated.2.notes) a.output).perform
      { files := a.config.left console.host }).1 = .ok w ∧ w.Accepts (a.document r)

theorem produce_ok_iff (a : Arguments) :
    let course := (produce console a).start console.host
    let said := console.said course.1 course.2
    (console.host.insistent = true → console.heard said = said) →
      (course.1 = .ok () ↔ Delivers console a) := by
  intro course said hheard
  cases hmade : ((generate console.host a.config).start console.host).1 with
  | error e =>
    obtain ⟨events, hgenerate⟩ := Config.start_generate hmade
    simp [course, produce_of_error console hgenerate, Delivers, hmade]
  | ok r =>
    obtain ⟨p, hp, hfiles, hstdout, ⟨hstops, hcourse⟩ | hcourse⟩ := produce_cases console hmade
    · -- What ended the run was said and not heard.
      obtain ⟨hinsistent, hunheard⟩ := Console.stops_eq_true_iff.mp hstops
      have hsaid : said = console.bytes p.notes := by
        simp only [said, course, hcourse, Console.said_ok]
      exact absurd (hsaid ▸ hheard hinsistent) hunheard
    · rcases Job.openOutput_cases console.host (console.bytes p.notes) a.output
        (a.config.left console.host) with ⟨path, e, hpath, hcreate⟩ | ⟨w, made, hfresh, hopen⟩
      · have hfails : (Job.openOutput console.host (console.bytes p.notes) (some path)).perform
            { files := a.config.left console.host } = _ := Job.perform_openOutput_error hcreate
        rw [← hfiles] at hcreate
        simp [course, hcourse, publish_of_error hpath hcreate, Delivers, hmade, ← hp, hpath, hfails]
      · have hwrote := publish_wrote (r := r) hstdout hfresh (hopen p hfiles)
        simp only [course, hcourse, hwrote.ok_iff, Delivers, hmade, ← hp, hopen]
        simp

theorem produce_of_no_output (h : ((generate console.host a.config).start console.host).1 = .ok r)
    (houtput : a.output = none) :
    let course := (produce console a).start console.host
    course.2.files = a.config.left console.host ∧
      ((console.host.writer (.stream 1)).Accepts (a.document r) →
        course.2.stdout = a.document r ∨
          course.2.stdout = [] ∧ console.status course.1 course.2 = 101) := by
  obtain ⟨p, -, hfiles, hstdout, ⟨hstops, hcourse⟩ | hcourse⟩ := produce_cases console h
  · rw [hcourse]
    exact ⟨hfiles, fun _ => .inr ⟨hstdout, if_pos hstops⟩⟩
  · have hopen : (Job.openOutput console.host (console.bytes p.notes) a.output).perform p =
        (.ok (console.host.writer (.stream 1)), { p with files := p.files }) := by
      rw [houtput]
      exact Job.perform_openOutput_none
    obtain ⟨p', q, sent, hfiles', hstdout', htakes, hout, hkept, hsent⟩ :=
      publish_wrote (r := r) hstdout (console.host.fresh_writer _) hopen
    rw [hcourse]
    refine ⟨hkept.trans (htakes.files_of_stream.trans (hfiles'.trans hfiles)), fun haccepts => ?_⟩
    rcases hsent with ⟨-, rfl, -⟩ | ⟨hroom, -, -⟩
    · exact .inl (by rw [hout, htakes.stdout_eq, hstdout', List.nil_append])
    · exact absurd haccepts hroom

theorem produce_of_create_error {path : Text} {e : OsError}
    (h : ((generate console.host a.config).start console.host).1 = .ok r)
    (hpath : a.output = some path)
    (hcreate : console.host.create (a.config.left console.host) path = .error e) :
    let course := (produce console a).start console.host
    course.2.stdout = [] ∧ course.2.files = a.config.left console.host := by
  obtain ⟨p, -, hfiles, hstdout, ⟨-, hcourse⟩ | hcourse⟩ := produce_cases console h
  · rw [hcourse]
    exact ⟨hstdout, hfiles⟩
  · rw [← hfiles] at hcreate
    rw [hcourse, publish_of_error hpath hcreate]
    exact ⟨hstdout, hfiles⟩

theorem produce_of_create {path : Text} {place : Path} {files : Files}
    (h : ((generate console.host a.config).start console.host).1 = .ok r)
    (hpath : a.output = some path)
    (hcreate : console.host.create (a.config.left console.host) path = .ok (place, files)) :
    let course := (produce console a).start console.host
    course.2.stdout = [] ∧ course.2.files = a.config.left console.host ∧
        console.status course.1 course.2 = 101 ∨
      ∃ told, Wrote course (console.host.writerAt files told place) files (a.document r) := by
  obtain ⟨p, -, hfiles, hstdout, ⟨hstops, hcourse⟩ | hcourse⟩ := produce_cases console h
  · rw [hcourse]
    exact .inl ⟨hstdout, hfiles, if_pos hstops⟩
  · rw [hcourse]
    refine .inr ⟨console.bytes p.notes, publish_wrote hstdout (console.host.fresh_writerAt ..) ?_⟩
    rw [hpath]
    exact Job.perform_openOutput_ok (hfiles ▸ hcreate)

theorem produce_of_device {path : Text} {place : Path} {files : Files} {d : Device}
    (h : ((generate console.host a.config).start console.host).1 = .ok r)
    (hpath : a.output = some path)
    (hcreate : console.host.create (a.config.left console.host) path = .ok (place, files))
    (hd : (a.config.left console.host).get? place = some (.device d)) :
    ((produce console a).start console.host).2.files = a.config.left console.host := by
  have hfiles : files = a.config.left console.host := by
    rcases Files.create_eq_ok (Host.create_eq_ok hcreate) with ⟨-, hfiles⟩ | ⟨hnone, -⟩
    · exact hfiles
    · exact absurd hd (hnone d)
  rcases produce_of_create console h hpath hcreate with ⟨-, hkept, -⟩ | ⟨told, hwrote⟩
  · exact hkept
  · obtain ⟨p, q, sent, hp, -, htakes, -, hkept, -⟩ := hwrote
    rw [hkept, ← hfiles, ← hp]
    rcases console.host.outlet_writerAt files told place with ⟨n, hn⟩ | hn
    · rw [hn] at htakes
      exact htakes.files_of_stream
    · rw [hn] at htakes
      exact htakes.files_of_device (hp ▸ hfiles ▸ hd)

theorem produce_of_regular {path : Text} {place : Path} {files : Files}
    (h : ((generate console.host a.config).start console.host).1 = .ok r)
    (hpath : a.output = some path)
    (hcreate : console.host.create (a.config.left console.host) path = .ok (place, files))
    (hd : ∀ d, (a.config.left console.host).get? place ≠ some (.device d))
    (haccepts : (console.host.writer (.file place)).Accepts (a.document r)) :
    let course := (produce console a).start console.host
    course.2.stdout = [] ∧
      ((∃ executable, course.2.files.get? place = some (.regular (a.document r) executable)) ∧
          (∀ other, other ≠ place →
            course.2.files.get? other = (a.config.left console.host).get? other) ∨
        course.2.files = a.config.left console.host ∧
          console.status course.1 course.2 = 101) := by
  have hplace : place ≠ [] ∧ ∃ executable,
      files = (a.config.left console.host).put place (.regular [] executable) := by
    rcases Files.create_eq_ok (Host.create_eq_ok hcreate) with ⟨⟨d, hdevice⟩, -⟩ | ⟨-, hplace⟩
    · exact absurd hdevice (hd d)
    · exact hplace
  obtain ⟨hne, executable, hfiles⟩ := hplace
  have hmade : files.get? place = some (.regular [] executable) := by
    rw [hfiles, Files.get?_put_self _ hne]
  rcases produce_of_create console h hpath hcreate with ⟨hstdout, hkept, hstatus⟩ | ⟨told, hwrote⟩
  · exact ⟨hstdout, .inr ⟨hkept, hstatus⟩⟩
  · -- What was opened is a file now, so it does not matter what standard error has taken.
    rw [Host.writerAt, hmade] at hwrote
    obtain ⟨p, q, sent, hp, hstdout, htakes, hout, hkept, hsent⟩ := hwrote
    rcases hsent with ⟨-, rfl, -⟩ | ⟨hroom, -⟩
    · dsimp only
      rw [hout, hkept]
      refine ⟨(htakes.stdout_of_ne (by simp [Host.writer])).trans hstdout,
        .inl ⟨⟨executable, htakes.get?_self hne (hp ▸ hmade)⟩, fun other hother => ?_⟩⟩
      rw [htakes.get?_of_ne hother, hp, hfiles, Files.get?_put_of_ne _ hother]
    · exact absurd haccepts hroom

def sampleFiles : Files :=
  ⟨[(["a".toList], .regular [] false), (["dev".toList], .directory),
    (["dev".toList, "stdout".toList], .device (.stream 1))], []⟩

/-- A machine where every program prints one block. -/
def sampleHost : Host where
  files := sampleFiles
  launch _ _ :=
    .ended ⟨.exited 0, Utf8.encode "A \x7b/**\nd*/\n\n.decl f(x)\x7d".toList, [], sampleFiles⟩

def sampleReference : Reference :=
  ⟨[⟨⟨"A".toList, "/**\nd*/\n\n.decl f(x)".toList⟩, [⟨"d".toList, "f(x)".toList⟩]⟩]⟩

def sampleArguments (output : String) : List Text := ["-o".toList, output.toList, "a".toList]

def sampleSettings (output : String) : Arguments :=
  { config := { input := "a".toList }, output := some output.toList }

theorem generate_sampleHost :
    ((generate sampleHost { input := "a".toList }).start sampleHost).1 = .ok sampleReference := by
  decide +kernel

def deafHost : Host := { sampleHost with limit := fun _ => some (0, .noSpace) }

def starredHost : Host := { sampleHost with terminal := some fun _ t => '*' :: t }

end Program

end DatalogDoc
