import DatalogDoc.Job
import DatalogDoc.Log

/-!
# What a run says

A run says on standard error which events have happened and why it fails. Where standard error
refuses a line, a front of all that is said has come out there, and most often the run ends.
-/

namespace DatalogDoc

structure Console where
  host : Host
  filter : Filter
  time : Text

namespace Console

def noteBytes (c : Console) : Note → Bytes
  | .event e => if c.filter.shows e then Utf8.encode (e.line c.host.styling c.time) else []
  | .printed bytes => bytes

def bytes (c : Console) (notes : List Note) : Bytes := notes.flatMap c.noteBytes

def said (c : Console) (result : Except Error Unit) (p : Progress) : Bytes :=
  c.bytes p.notes ++ match result with
    | .ok _ => []
    | .error e => Utf8.encode (e.report c.host.styling)

def heard (c : Console) (bytes : Bytes) : Bytes := c.host.taken (.stream 2) bytes

/-- Whether a run ends at a line of the log that was refused. -/
def stops (c : Console) (notes : List Note) : Bool :=
  c.host.insistent && c.heard (c.bytes notes) != c.bytes notes

def status (c : Console) (result : Except Error Unit) (p : Progress) : UInt8 :=
  match result with
  | .ok _ => if c.stops p.notes then 101 else 0
  | .error _ => if c.heard (c.said result p) = c.said result p then 1 else 101

end Console

end DatalogDoc
