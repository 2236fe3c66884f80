import DatalogDoc.Job

/-!
# Writing through a buffer

A document is written piece by piece. The pieces gather in a buffer, which is handed over to the
system when the next one does not fit, and at the end. Only then does it show whether there is room.
-/

namespace DatalogDoc

structure Writer where
  outlet : Outlet
  /-- How many bytes the outlet takes and why it takes no more; nothing if it takes all. -/
  limit : Option (Nat × OsError)
  taken : Nat := 0
  buffer : Bytes := []

def Host.writer (host : Host) (outlet : Outlet) : Writer := { outlet, limit := host.limit outlet }

def Host.create (host : Host) (files : Files) (path : Text) : Except OsError (Path × Files) :=
  match host.bars path with
  | some e => .error e
  | none => files.create path false

/-- A writer to what was opened at a place. Standard error may have taken something before. -/
def Host.writerAt (host : Host) (files : Files) (told : Bytes) (p : Path) : Writer :=
  match files.get? p with
  | some (.device (.stream n)) =>
    { host.writer (.stream n) with
      taken := if n = 2 then (host.taken (.stream 2) told).length else 0 }
  | some (.device .full) => { outlet := .file p, limit := some (0, .noSpace) }
  | _ => host.writer (.file p)

namespace Writer

def capacity : Nat := 8192

/-- Hands bytes over to the outlet. What it takes before it refuses the rest stays there. -/
def hand (w : Writer) (bytes : Bytes) : Job Writer :=
  match w.limit with
  | some (n, e) =>
    if w.taken + bytes.length ≤ n then do
      Job.deliver w.outlet bytes
      return { w with taken := w.taken + bytes.length }
    else do
      Job.deliver w.outlet (bytes.take (n - w.taken))
      throw (.notWritten e)
  | none => do
    Job.deliver w.outlet bytes
    return { w with taken := w.taken + bytes.length }

def flush (w : Writer) : Job Writer := do
  let w ← w.hand w.buffer
  return { w with buffer := [] }

def makeRoom (w : Writer) (n : Nat) : Job Writer :=
  if w.buffer.length + n ≤ capacity then pure w else w.flush

/-- Takes a piece. One of the size of the buffer goes past it. -/
def put (w : Writer) (piece : Bytes) : Job Writer := do
  let w ← w.makeRoom piece.length
  if piece.length < capacity then
    return { w with buffer := w.buffer ++ piece }
  else
    w.hand piece

def write (w : Writer) (pieces : List Text) : Job Writer :=
  pieces.foldlM (fun w piece => w.put (Utf8.encode piece)) w

end Writer

def Job.openOutput (host : Host) (told : Bytes) (output : Option Text) : Job Writer := do
  match output with
  | none => return host.writer (.stream 1)
  | some path =>
    match host.create (← get).files path with
    | .error e => throw (.notWritten e)
    | .ok (p, files) =>
      Job.setFiles files
      return host.writerAt files told p

end DatalogDoc
