import DatalogDoc.Reference
import DatalogDoc.Style

/-!
# Events of a run

What a run tells about its progress, as data.
-/

namespace DatalogDoc

inductive Event
  /-- The preprocessor succeeded but had something to say. -/
  | reported (program stderr : Text)
  | preprocessed (bytes : Nat)
  | sectionExtracted (name : Text) (declarations : Nat)
  | referenceExtracted (input : Text) (sections declarations : Nat)
  | duplicate (declaration : Text) (count : Nat)
  | written (output : Text)
deriving DecidableEq

inductive FieldValue
  | plain (t : Text)
  | quoted (t : Text)
  | number (n : Nat)

namespace Event

def ofSection (s : Section) : Event := .sectionExtracted s.name s.declarations.length

def level : Event → Level
  | reported .. | duplicate .. => .warn
  | preprocessed _ | sectionExtracted .. => .debug
  | referenceExtracted .. | written _ => .info

def message : Event → Text
  | reported _ stderr => "preprocessor reported: ".toList ++ stderr
  | preprocessed _ => "preprocessed input".toList
  | sectionExtracted .. => "extracted section".toList
  | referenceExtracted .. => "extracted reference".toList
  | duplicate .. => "declaration documented more than once".toList
  | written _ => "wrote reference".toList

def fields : Event → List (Text × FieldValue)
  | reported program _ => [("program".toList, .plain program)]
  | preprocessed bytes => [("bytes".toList, .number bytes)]
  | sectionExtracted name n => [("section".toList, .plain name), ("declarations".toList, .number n)]
  | referenceExtracted input sections declarations =>
    [("input".toList, .plain input), ("sections".toList, .number sections),
     ("declarations".toList, .number declarations)]
  | duplicate declaration count =>
    [("declaration".toList, .quoted declaration), ("count".toList, .number count)]
  | written output => [("output".toList, .plain output)]

def target : Event → Text
  | reported .. | preprocessed _ => "dlref::preprocess".toList
  | sectionExtracted .. => "dlref::extract".toList
  | referenceExtracted .. | duplicate .. | written _ => "dlref".toList

end Event

end DatalogDoc
