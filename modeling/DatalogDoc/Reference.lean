import DatalogDoc.Block.Balanced
import DatalogDoc.Block.Lazy
import DatalogDoc.Declaration

/-!
# References

A reference is what a definition text documents: its named blocks, each with the declarations found
in its body.
-/

namespace DatalogDoc

inductive Mode
  | lazy
  | balanced
deriving DecidableEq

namespace Mode

def name : Mode → Text
  | lazy => "lazy".toList
  | balanced => "balanced".toList

def ofName? (t : Text) : Option Mode := [lazy, balanced].find? (·.name == t)

def blocks : Mode → Text → Except ScanError (List Block)
  | lazy, t => .ok (Block.lazy t)
  | balanced, t => Block.balanced t

end Mode

structure Section extends Block where
  declarations : List Declaration
deriving DecidableEq

namespace Section

def ofBlock (b : Block) : Section := ⟨b, Declaration.all b.body⟩

end Section

structure Reference where
  sections : List Section
deriving DecidableEq

/-- How often names were met, where the newest entry of a name counts, and the names in the order in
which they were met first. -/
structure Tally where
  counts : List (Text × Nat)
  order : List Text

namespace Tally

def empty : Tally := ⟨[], []⟩

def meet (tally : Tally) (name : Text) : Tally :=
  let count := (tally.counts.lookup name).getD 0
  { counts := (name, count + 1) :: tally.counts
    order := if count = 0 then tally.order ++ [name] else tally.order }

def repeated (tally : Tally) : List (Text × Nat) :=
  tally.order.filterMap fun name =>
    let count := (tally.counts.lookup name).getD 0
    if 1 < count then some (name, count) else none

end Tally

namespace Reference

def extract (mode : Mode) (t : Text) : Except ScanError Reference :=
  (mode.blocks t).map fun blocks => ⟨blocks.map Section.ofBlock⟩

theorem extract_eq_ok_iff {mode : Mode} {t : Text} {r : Reference} :
    extract mode t = .ok r ↔
      ∃ bs, mode.blocks t = .ok bs ∧ r.sections = bs.map Section.ofBlock := by
  rw [extract]
  cases mode.blocks t with
  | error e => simp [Except.map]
  | ok bs =>
    obtain ⟨sections⟩ := r
    simp [Except.map, eq_comm]

theorem extract_lazy (t : Text) :
    extract .lazy t = .ok ⟨(Block.lazy t).map Section.ofBlock⟩ := rfl

def isEmpty (r : Reference) : Bool := r.sections.isEmpty

def declarations (r : Reference) : List Declaration := r.sections.flatMap Section.declarations

def declarationCount (r : Reference) : Nat := r.declarations.length

/-- The names that several declarations share, in the order of their first occurrence, each with the
number of its declarations. -/
def duplicates (r : Reference) : List (Text × Nat) :=
  (r.declarations.foldl (fun tally d => tally.meet d.name) Tally.empty).repeated

end Reference

end DatalogDoc
