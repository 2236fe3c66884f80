import DatalogDoc.Block

/-!
# Blocks up to the first closing brace

A lazy block ends at the first closing brace after its opening one, so a nested block cuts it short
and the search goes on behind that brace. Comments and strings mean nothing here.
-/

namespace DatalogDoc.Block

def opening : Mark := Mark.word ['{']

theorem consuming_opening : opening.Consuming := Mark.consuming_word (by simp)

def closing : Mark := Mark.word ['}']

theorem consuming_closing : closing.Consuming := Mark.consuming_word (by simp)

/-- The lazy blocks of a text. Behind an opening brace without a name the search goes on; without a
closing brace in the rest there is no further block. -/
def lazy (t : Text) : List Block :=
  match _ : opening.seek t with
  | none => []
  | some (before, inside) =>
    match nameBefore? before with
    | none => lazy inside
    | some name =>
      match _ : closing.seek inside with
      | none => []
      | some (body, rest) => ⟨name, body⟩ :: lazy rest
termination_by t.length
decreasing_by
  · exact Mark.length_lt_of_seek consuming_opening (by assumption)
  · exact Nat.lt_trans (Mark.length_lt_of_seek consuming_closing (by assumption))
      (Mark.length_lt_of_seek consuming_opening (by assumption))

end DatalogDoc.Block
