import DatalogDoc.Markdown

/-!
# Configuration of a run
-/

namespace DatalogDoc

/-- A command that is given the input path as its last argument and prints the text to document. -/
structure Preprocessor where
  program : Text := "mcpp".toList
  arguments : List Text := ["-C".toList, "-P".toList]
deriving DecidableEq

structure Config where
  input : Text := "../src/datalog/ast.dl".toList
  preprocessor : Preprocessor := {}
  mode : Mode := .lazy
  layout : Layout := {}
  /-- Whether a text without sections will do. -/
  allowEmpty : Bool := false
deriving DecidableEq

end DatalogDoc
