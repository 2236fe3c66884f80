import DatalogDoc.Reference

/-!
# The Markdown document of a reference

One heading for the document, one for each section, and for each declaration a heading with its
name, its signature in a code fence, and its doc as it was written. A document is a list of pieces,
which are written one after another.
-/

namespace DatalogDoc

/-- What the document says beyond the reference. -/
structure Layout where
  title : Text := "AST API Reference".toList
  /-- The language tag of the code fences. -/
  language : Text := "erlang".toList
deriving DecidableEq

namespace Layout

def line (lead value : Text) : List Text := [lead, value, "\n".toList]

def entry (layout : Layout) (d : Declaration) : List Text :=
  line "### ".toList d.name ++ ["\n".toList] ++ line "```".toList layout.language
    ++ line [] d.signature ++ ["```\n".toList, "\n".toList] ++ line [] d.doc

def chapter (layout : Layout) (s : Section) : List Text :=
  line "## ".toList s.name ++ s.declarations.flatMap layout.entry

def pieces (layout : Layout) (r : Reference) : List Text :=
  line "# ".toList layout.title ++ r.sections.flatMap layout.chapter

def document (layout : Layout) (r : Reference) : Text := (layout.pieces r).flatten

end Layout

end DatalogDoc
