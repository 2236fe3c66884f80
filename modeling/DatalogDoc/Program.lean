import DatalogDoc.Arguments
import DatalogDoc.Arguments.Help
import DatalogDoc.Console
import DatalogDoc.Generate
import DatalogDoc.Writer

/-!
# The whole program

A run on a host: from the command line to the document, the log and the exit status. The document
is written once all of it is there; a failed run writes none.
-/

namespace DatalogDoc

structure Report where
  status : UInt8
  stdout : Bytes
  stderr : Text
  files : Files

namespace Program

def publish (console : Console) (args : Arguments) (r : Reference) : Job Unit := do
  let told := console.bytes (← get).notes
  let writer ← Job.openOutput console.host told args.output
  let writer ← writer.write (args.config.layout.pieces r)
  let _ ← writer.flush
  Job.log (args.output.toList.map .written)

/-- Makes the document and writes it, unless the run has ended at the log before. -/
def produce (console : Console) (args : Arguments) : Job Unit := do
  let r ← generate console.host args.config
  unless console.stops (← get).notes do
    publish console args r

def filter (args : Arguments) (setting : Option Text) : Filter :=
  match setting.bind Filter.parse? with
  | some f => f
  | none => .upTo (if args.verbose then .debug else .info)

def execute (host : Host) (setting : Option Text) (time : Text) (args : Arguments) : Report :=
  let console : Console := ⟨host, filter args setting, time⟩
  let (result, p) := (produce console args).start host
  ⟨console.status result p, p.stdout, Utf8.decodeLossy (console.heard (console.said result p)),
    p.files⟩

def stopped (host : Host) (stop : Stop) : Report :=
  let printed (t : Text) : Report := ⟨0, host.taken (.stream 1) (Utf8.encode t), [], host.files⟩
  let refused (reason : String) : Report :=
    let said := "error: ".toList ++ reason.toList
      ++ "\n\nFor more information, try '--help'.\n".toList
    ⟨2, [], Utf8.decodeLossy (host.taken (.stream 2) (Utf8.encode said)), host.files⟩
  match stop with
  | .help full => printed (Help.text (if full then Help.full else Help.summary))
  | .version => printed (Help.text Help.version)
  | .invalidValue => refused "invalid or missing value"
  | .argumentConflict => refused "an option is given more than once"
  | .tooManyValues => refused "a flag takes no value"
  | .unknownArgument => refused "unexpected argument"

/-- Runs the program on a host with the given arguments; `setting` says which events are logged, and
each log line starts with the time. -/
def run (host : Host) (setting : Option Text) (time : Text) (args : List Text) : Report :=
  match Arguments.parse args with
  | .ok args => execute host setting time args
  | .error stop => stopped host stop

end Program

end DatalogDoc
