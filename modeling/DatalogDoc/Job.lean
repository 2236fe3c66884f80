import DatalogDoc.Error
import DatalogDoc.Event

/-!
# Jobs

A job is a part of a run. It ends with a result or a failure, and what it has told, printed and
changed by then stays in either case.
-/

namespace DatalogDoc

inductive Note
  | event (e : Event)
  | printed (bytes : Bytes)

structure Progress where
  files : Files
  notes : List Note := []
  stdout : Bytes := []

namespace Progress

/-- The events of a run in their order. -/
def events (p : Progress) : List Event :=
  p.notes.filterMap fun
    | .event e => some e
    | .printed _ => none

def tell (p : Progress) (events : List Event) : Progress :=
  { p with notes := p.notes ++ events.map Note.event }

@[simp] theorem tell_nil (p : Progress) : p.tell [] = p := by simp [tell]

@[simp] theorem tell_tell (p : Progress) (es fs : List Event) :
    (p.tell es).tell fs = p.tell (es ++ fs) := by
  simp [tell]

@[simp] theorem events_tell (p : Progress) (es : List Event) :
    (p.tell es).events = p.events ++ es := by
  simp only [events, tell, List.filterMap_append, List.filterMap_map, Function.comp_def,
    List.filterMap_some]

@[simp] theorem stdout_tell (p : Progress) (es : List Event) : (p.tell es).stdout = p.stdout := rfl

@[simp] theorem files_tell (p : Progress) (es : List Event) : (p.tell es).files = p.files := rfl

/-- Adds bytes to what an outlet has taken. -/
def deliver (p : Progress) (outlet : Outlet) (bytes : Bytes) : Progress :=
  match outlet with
  | .stream 1 => { p with stdout := p.stdout ++ bytes }
  | .stream 2 => { p with notes := p.notes ++ [.printed bytes] }
  | .stream _ => p
  | .file path => { p with files := p.files.append path bytes }

theorem stdout_deliver_of_ne (p : Progress) {outlet : Outlet} (h : outlet ≠ .stream 1)
    (bytes : Bytes) : (p.deliver outlet bytes).stdout = p.stdout := by
  rw [deliver.eq_def]
  split
  · exact absurd rfl h
  · rfl
  · rfl
  · rfl

theorem files_deliver_stream (p : Progress) (n : Nat) (bytes : Bytes) :
    (p.deliver (.stream n) bytes).files = p.files := by
  match n with
  | 0 | 1 | 2 | _ + 3 => rfl

end Progress

abbrev Job := ExceptT Error (StateM Progress)

namespace Job

variable {α β : Type}

/-- How a job ends that goes on from what has been done. -/
def perform (job : Job α) (p : Progress) : Except Error α × Progress := job.run.run p

/-- How a job ends that comes first on a host. -/
def start (job : Job α) (host : Host) : Except Error α × Progress :=
  job.perform { files := host.files }

def log (events : List Event) : Job Unit := modify fun p => p.tell events

def deliver (outlet : Outlet) (bytes : Bytes) : Job Unit := modify fun p => p.deliver outlet bytes

def setFiles (files : Files) : Job Unit := modify fun p => { p with files }

@[simp] theorem perform_pure (a : α) (p : Progress) :
    (pure a : Job α).perform p = (.ok a, p) := rfl

@[simp] theorem perform_throw (e : Error) (p : Progress) :
    (throw e : Job α).perform p = (.error e, p) := rfl

@[simp] theorem perform_get (p : Progress) : (get : Job Progress).perform p = (.ok p, p) := rfl

@[simp] theorem perform_log (es : List Event) (p : Progress) :
    (log es).perform p = (.ok (), p.tell es) := rfl

@[simp] theorem perform_deliver (outlet : Outlet) (bytes : Bytes) (p : Progress) :
    (deliver outlet bytes).perform p = (.ok (), p.deliver outlet bytes) := rfl

@[simp] theorem perform_setFiles (files : Files) (p : Progress) :
    (setFiles files).perform p = (.ok (), { p with files }) := rfl

/-- The second of two jobs goes on where the first one ended, unless that failed. -/
theorem perform_bind (job : Job α) (next : α → Job β) (p : Progress) :
    (job >>= next).perform p = match job.perform p with
      | (.ok a, q) => (next a).perform q
      | (.error e, q) => (.error e, q) := by
  show (ExceptT.bindCont next (job.perform p).1).run (job.perform p).2 = _
  obtain ⟨result, q⟩ := job.perform p
  cases result with
  | ok a => rfl
  | error e => rfl

@[simp] theorem perform_map (f : α → β) (job : Job α) (p : Progress) :
    (f <$> job).perform p = ((job.perform p).1.map f, (job.perform p).2) := by
  rw [← bind_pure_comp, perform_bind]
  obtain ⟨result, q⟩ := job.perform p
  cases result with
  | ok a => rfl
  | error e => rfl

theorem perform_bind_of_ok {job : Job α} {next : α → Job β} {p q : Progress} {a : α}
    (h : job.perform p = (.ok a, q)) : (job >>= next).perform p = (next a).perform q := by
  rw [perform_bind, h]

theorem perform_bind_of_error {job : Job α} {next : α → Job β} {p q : Progress} {e : Error}
    (h : job.perform p = (.error e, q)) : (job >>= next).perform p = (.error e, q) := by
  rw [perform_bind, h]

end Job

end DatalogDoc
