import DatalogDoc.Config
import DatalogDoc.Job
import DatalogDoc.Text.Blank

/-!
# From a configuration to a reference

The stages of a run in order: the input must be there, the preprocessor be found, start and succeed,
its output be UTF-8 and scan, and the reference hold something. The first failing stage decides, and
events tell how far the run came.
-/

namespace DatalogDoc

def Preprocessor.run (p : Preprocessor) (host : Host) (input : Text) : Job Text := do
  unless host.files.exists? input do
    throw (.inputNotFound input)
  match host.launch p.program (p.arguments ++ [input]) with
  | .notFound => throw (.preprocessorNotFound p.program)
  | .refused reason => throw (.notStarted p.program reason)
  | .ended e =>
    Job.setFiles e.files
    let stderr := trim (Utf8.decodeLossy e.stderr)
    unless e.status.isSuccess do
      throw (.preprocessorFailed p.program e.status stderr)
    unless stderr.isEmpty do
      Job.log [.reported p.program stderr]
    match Utf8.decode e.stdout with
    | .error defect => throw (.invalidUtf8 defect)
    | .ok t =>
      Job.log [.preprocessed e.stdout.length]
      return t

/-- Extracts the reference of a text and tells about each section. -/
def Reference.extracting (mode : Mode) (t : Text) : Job Reference :=
  match Reference.extract mode t with
  | .error e => throw (.scan e)
  | .ok r => do
    Job.log (r.sections.map Event.ofSection)
    return r

def generate (host : Host) (config : Config) : Job Reference := do
  let t ← config.preprocessor.run host config.input
  let r ← Reference.extracting config.mode t
  Job.log [.referenceExtracted config.input r.sections.length r.declarationCount]
  Job.log (r.duplicates.map fun (name, count) => .duplicate name count)
  if r.isEmpty && !config.allowEmpty then
    throw (.noSections config.input)
  return r

end DatalogDoc
