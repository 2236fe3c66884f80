import DatalogDoc.Host.Machine
import DatalogDoc.Program

/-!
# The program at the command line

Brings the files that the arguments name onto a machine, runs there, and carries the outcome back.
-/

namespace DatalogDoc

def Arguments.paths (args : Arguments) : List Text :=
  let named := args.config.input :: args.config.preprocessor.program
    :: args.config.preprocessor.arguments ++ args.output.toList
  named.flatMap fun t => [(t.reverse.dropWhile (· ≠ '/')).reverse, t]

/-- Adds what is found at a path; what can be opened but not read is a directory. -/
def Files.load (files : Files) (path : Text) : IO Files := do
  if path.isEmpty then
    return files
  try
    let bytes := (← IO.FS.readBinFile (String.ofList path)).toList
    return files.addFile path bytes (Interpreter.ofContent? bytes).isSome
  catch
    | .noFileOrDirectory .. => return files
    | _ => return files.addDirectory path

def Files.store (before after : Files) : IO Unit := do
  for (p, node) in after.nodes do
    if let .regular content _ := node then
      if before.get? p ≠ some node then
        IO.FS.writeBinFile (String.ofList (Path.text p)) ⟨content.toArray⟩

end DatalogDoc

open DatalogDoc in
def main (args : List String) : IO UInt32 := do
  let args := args.map String.toList
  let here := (← IO.currentDir).toString.toList
  let mut files := Machine.bare ((here.splitOn '/').filter (!·.isEmpty))
  if let .ok settings := Arguments.parse args then
    for path in settings.paths do
      files ← files.load path
  let setting ← IO.getEnv "RUST_LOG"
  let time := (Nat.repr (← IO.monoMsNow)).toList
  let report := Program.run (Machine.host [] files) (setting.map String.toList) time args
  files.store report.files
  (← IO.getStdout).write ⟨report.stdout.toArray⟩
  IO.eprint (String.ofList report.stderr)
  return report.status.toUInt32
