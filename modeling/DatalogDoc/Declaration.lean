import DatalogDoc.Text

/-!
# Documented declarations

A documented declaration is a doc comment, a blank line, and `.decl` with a signature. The doc runs
from the opener to the first comment closer that a declaration follows, and the signature to its
first closing parenthesis.
-/

namespace DatalogDoc

structure Declaration where
  doc : Text
  signature : Text
deriving DecidableEq

namespace Declaration

/-- The name stands before the first parenthesis; without one it is the whole signature. -/
def name (d : Declaration) : Text := d.signature.takeWhile (· ≠ '(')

def docOpener : Mark := Mark.word ['/', '*', '*', '\n']

theorem consuming_docOpener : docOpener.Consuming := Mark.consuming_word (by simp)

/-- The end of the doc comment, a blank line and the keyword, with any character in the place of
its dot. -/
def keyword : Mark :=
  ((Mark.word ['*', '/', '\n', '\n']).andThen Mark.anyChar).andThen
    (Mark.word ['d', 'e', 'c', 'l', ' '])

theorem consuming_keyword : keyword.Consuming :=
  ((Mark.consuming_word (by simp)).andThen Mark.consuming_anyChar).andThen
    (Mark.consuming_word (by simp))

def signatureEnd : Mark := Mark.word [')']

theorem consuming_signatureEnd : signatureEnd.Consuming := Mark.consuming_word (by simp)

def first? (t : Text) : Option (Declaration × Text) := do
  let (_, t) ← docOpener.seek t
  let (doc, t) ← keyword.seek t
  let (signature, t) ← signatureEnd.seek t
  return (⟨doc, signature ++ [')']⟩, t)

theorem length_lt_of_first? {t rest : Text} {d : Declaration} (h : first? t = some (d, rest)) :
    rest.length < t.length := by
  simp only [first?, Option.bind_eq_bind, Option.bind_eq_some_iff] at h
  obtain ⟨⟨_, u⟩, hu, ⟨_, v⟩, hv, ⟨_, w⟩, hw, h⟩ := h
  simp only [Option.pure_def, Option.some.injEq, Prod.mk.injEq] at h
  have hu := Mark.length_lt_of_seek consuming_docOpener hu
  have hv := Mark.length_lt_of_seek consuming_keyword hv
  have hw := Mark.length_lt_of_seek consuming_signatureEnd hw
  exact h.2 ▸ Nat.lt_trans hw (Nat.lt_trans hv hu)

def all (t : Text) : List Declaration :=
  match _ : first? t with
  | none => []
  | some (d, rest) => d :: all rest
termination_by t.length
decreasing_by exact length_lt_of_first? (by assumption)

def print (d : Declaration) : Text :=
  "/**\n".toList ++ d.doc ++ "*/\n\n.decl ".toList ++ d.signature

end Declaration

end DatalogDoc
