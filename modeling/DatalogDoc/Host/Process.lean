import DatalogDoc.Host.Files
import DatalogDoc.Style

/-!
# Running programs

What a program leaves behind when it ends, and what becomes of the request to start one.
-/

namespace DatalogDoc

inductive Status
  | exited (code : UInt8)
  | killed (signal : Nat)
deriving DecidableEq

namespace Status

def isSuccess (s : Status) : Bool := s == .exited 0

def signalNames : List String :=
  ["HUP", "INT", "QUIT", "ILL", "TRAP", "ABRT", "BUS", "FPE", "KILL", "USR1", "SEGV", "USR2", "PIPE",
   "ALRM", "TERM", "STKFLT", "CHLD", "CONT", "STOP", "TSTP", "TTIN", "TTOU", "URG", "XCPU", "XFSZ",
   "VTALRM", "PROF", "WINCH", "IO", "PWR", "SYS"]

def signalName? (signal : Nat) : Option String :=
  if signal = 0 then none else signalNames[signal - 1]?

def message : Status → Text
  | exited code => "exit status: ".toList ++ (Nat.repr code.toNat).toList
  | killed signal =>
    let name := match signalName? signal with
      | some name => " (SIG".toList ++ name.toList ++ ")".toList
      | none => []
    "signal: ".toList ++ (Nat.repr signal).toList ++ name

def number : Status → Nat
  | exited code => code.toNat
  | killed signal => 128 + signal

end Status

structure Ended where
  status : Status
  stdout : Bytes
  stderr : Bytes
  files : Files

inductive Refusal
  | system (e : OsError)
  | nulByte
deriving DecidableEq

def Refusal.message : Refusal → Text
  | system e => e.message
  | nulByte => "nul byte found in provided data".toList

inductive Launch
  | notFound
  | refused (reason : Refusal)
  | ended (e : Ended)

/-- Where a program can write: a stream that it was given, or a file that it has opened. -/
inductive Outlet
  | stream (descriptor : Nat)
  | file (path : Path)
deriving DecidableEq

structure Host where
  files : Files
  launch : Text → List Text → Launch
  /-- Why a path may not be opened for writing, if the host bars it. -/
  bars : Text → Option OsError := fun _ => none
  /-- How many bytes an outlet takes and why it takes no more; nothing if it takes all. A standard
  stream that is closed counts as one that takes all. -/
  limit : Outlet → Option (Nat × OsError) := fun _ => none
  terminal : Option Styling := none
  /-- Whether the logger complains where a line is refused, which ends the run; else it loses the
  line. -/
  insistent : Bool := true

namespace Host

def styling (host : Host) : Styling := host.terminal.getD .plain

def taken (host : Host) (outlet : Outlet) (bytes : Bytes) : Bytes :=
  match host.limit outlet with
  | some (n, _) => bytes.take n
  | none => bytes

end Host

end DatalogDoc
