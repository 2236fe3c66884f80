import DatalogDoc.Block.Balanced
import DatalogDoc.Host.Process

/-!
# Failures of a run
-/

namespace DatalogDoc

inductive Error
  | inputNotFound (path : Text)
  | preprocessorNotFound (program : Text)
  | notStarted (program : Text) (reason : Refusal)
  | preprocessorFailed (program : Text) (status : Status) (stderr : Text)
  | invalidUtf8 (defect : Utf8.Defect)
  | scan (error : ScanError)
  | noSections (path : Text)
  | notWritten (reason : OsError)
deriving DecidableEq

namespace Error

def quoted (t : Text) : Text := '\'' :: t ++ ['\'']

def message : Error → Text
  | inputNotFound path => "input file ".toList ++ quoted path ++ " not found".toList
  | preprocessorNotFound program => "preprocessor ".toList ++ quoted program ++ " not found".toList
  | notStarted program _ => "failed to launch preprocessor ".toList ++ quoted program
  | preprocessorFailed program status stderr =>
    "preprocessor ".toList ++ quoted program ++ " failed (".toList ++ status.message ++ ")".toList
      ++ if stderr.isEmpty then [] else ": ".toList ++ stderr
  | invalidUtf8 _ => "preprocessor output is not valid UTF-8".toList
  | scan error => error.message
  | noSections path => "no sections found in ".toList ++ quoted path
  | notWritten _ => "failed to write output".toList

/-- What lies behind the failure, the nearest cause first. -/
def causes : Error → List Text
  | preprocessorNotFound _ => ["cannot find binary path".toList]
  | notStarted _ reason => [reason.message]
  | invalidUtf8 defect => [defect.message]
  | notWritten reason => [reason.message]
  | inputNotFound _ | preprocessorFailed .. | scan _ | noSections _ => []

def report (styling : Styling) (e : Error) : Text :=
  styling .failure "error:".toList ++ ' ' :: e.message ++ ['\n']
    ++ e.causes.flatMap fun cause =>
      "  ".toList ++ styling .cause "caused by:".toList ++ ' ' :: cause ++ ['\n']

end Error

end DatalogDoc
