import DatalogDoc.Text

/-!
# Places in a text

Lines and columns count from one, and a column is one code point wide.
-/

namespace DatalogDoc

structure Location where
  line : Nat
  column : Nat
deriving DecidableEq

namespace Location

def start : Location := ⟨1, 1⟩

/-- The place behind one character. -/
def next (here : Location) (c : Char) : Location :=
  if c = '\n' then ⟨here.line + 1, 1⟩ else ⟨here.line, here.column + 1⟩

/-- The place behind a whole text. -/
def after (here : Location) (t : Text) : Location := t.foldl next here

@[simp] theorem after_nil (here : Location) : here.after [] = here := rfl

@[simp] theorem after_cons (here : Location) (c : Char) (t : Text) :
    here.after (c :: t) = (here.next c).after t := rfl

theorem after_append (here : Location) (t u : Text) :
    here.after (t ++ u) = (here.after t).after u := List.foldl_append

end Location

end DatalogDoc
