import DatalogDoc.Proofs.Scanning

/-!
# Blocks one after another

A text that a balanced scan accepts is made of whole blocks with other code between them, and the
scan lists those that have a name.
-/

namespace DatalogDoc

namespace Lexeme

theorem passable_of_append_cons {ls ks : List Lexeme} {l : Lexeme} (h : Passable (ls ++ l :: ks)) :
    Passable ls ∧ Ended ls := by
  obtain ⟨hfree, hended⟩ := h
  rw [List.dropLast_append_cons] at hended
  have hls : Ended ls := fun u hu => hended u (List.mem_append_left _ hu)
  refine ⟨⟨?_, ?_⟩, hls⟩
  · intro k hk
    exact hfree k (List.mem_append_left _ hk)
  · intro u hu
    exact hls u (List.dropLast_subset ls hu)

theorem passable_of_append {ls ks : List Lexeme} (h : Passable (ls ++ ks)) : Passable ks := by
  obtain ⟨hfree, hended⟩ := h
  refine ⟨fun k hk => hfree k (List.mem_append_right _ hk), ?_⟩
  intro u hu
  apply hended u
  rw [List.dropLast_append_of_ne_nil (by rintro rfl; simp at hu)]
  exact List.mem_append_right _ hu

end Lexeme

namespace Walk

open Lexeme Context

theorem foldl_outside {ls : List Lexeme} (ho : code '{' ∉ ls) (hls : Passable ls)
    (here : Location) (t : Text) (bs : List Block) :
    ∃ run, ls.foldl next ⟨here, outside (t.takeWhile Block.isNameChar), bs⟩ =
        ⟨here.after (ls.flatMap text), outside run, bs⟩ ∧
      (Ended ls → run = ((ls.flatMap text).reverse ++ t).takeWhile Block.isNameChar) := by
  induction ls using List.reverseRecOn with
  | nil => exact ⟨_, rfl, fun _ => rfl⟩
  | append_singleton ls l ih =>
    obtain ⟨hpass, hended, hl⟩ := passable_concat hls
    obtain ⟨run, hfold, hrun⟩ := ih (fun h => ho (List.mem_append_left _ h)) hpass
    have hbrace : l ≠ code '{' := by
      rintro rfl
      exact ho (by simp)
    obtain ⟨run', hstep, hrun'⟩ := step_outside (here.after (ls.flatMap text))
      ((ls.flatMap text).reverse ++ t) hbrace
    refine ⟨run', ?_, ?_⟩
    · rw [List.foldl_append, hfold, hrun hended]
      simp [next, hstep, Location.after_append]
    · intro he
      rw [hrun' hl (fun u hu => he u (by simp_all))]
      simp

theorem foldl_inside {ls : List Lexeme} (hls : Nested ls) (here : Location) (b : OpenBlock)
    (bs : List Block) :
    ls.foldl next ⟨here, inside b, bs⟩ =
      ⟨here.after (ls.flatMap text), inside { b with lexemes := ls.reverse ++ b.lexemes }, bs⟩ := by
  induction hls generalizing here b with
  | nil => rfl
  | @plain l ls ho hc _ ih =>
    have hlevel : levelBehind b.depth l = some b.depth := by simp [levelBehind, ho, hc]
    simp [next, step_inside, hlevel, ih, OpenBlock.push, Location.after_append]
  | block _ _ ihi ihl =>
    simp [next, step_inside, levelBehind, ihi, ihl, OpenBlock.push, Location.after_append]

/-- A block outside every other block is found if it has a name, and nothing of it is left. -/
theorem foldl_block {inner : List Lexeme} (hi : Nested inner) (here : Location) (run : Text)
    (bs : List Block) :
    (code '{' :: (inner ++ [code '}'])).foldl next ⟨here, outside run, bs⟩ =
      ⟨here.after ((code '{' :: (inner ++ [code '}'])).flatMap text), outside [],
        bs ++ ((Block.nameOfRun? run).map fun name => ⟨name, inner.flatMap text⟩).toList⟩ := by
  have hopen : next ⟨here, outside run, bs⟩ (code '{') =
      ⟨here.after ['{'], inside ⟨Block.nameOfRun? run, here, [], 0⟩, bs⟩ := by
    simp [next, step, text]
  rw [List.foldl_cons, hopen, List.foldl_append, foldl_inside hi]
  simp [next, step, text, OpenBlock.close, OpenBlock.body, Location.after_append]

end Walk

namespace Block

open Lexeme Context

theorem cut_name_space {name rest : Text} {ls : List Lexeme} (hchars : ∀ c ∈ name, isNameChar c)
    (h : Cut rest ls) : Cut (name ++ [' '] ++ rest) ((name ++ [' ']).map code ++ ls) := by
  apply cut_code _ h
  intro c hc
  refine ⟨?_, ?_⟩
  all_goals
    rintro rfl
    exact not_mem_name_space hchars (by decide) hc

theorem code_not_mem_name_space {name : Text} (hchars : ∀ c ∈ name, isNameChar c) {c : Char}
    (hc : ¬ isNameChar c) : code c ∉ (name ++ [' ']).map code := by
  intro hmem
  obtain ⟨d, hd, hcode⟩ := List.mem_map.mp hmem
  obtain rfl : d = c := by simpa using hcode
  exact not_mem_name_space hchars hc hd

/-- The block that a brace opens between two texts, if the text before it gives a name. -/
def between? (before body : Text) : Option Block := (nameBefore? before).map fun name => ⟨name, body⟩

/-- The lexemes are whole blocks with other code around them, and these are the blocks that have a
name. -/
inductive Outline : List Lexeme → List Block → Prop
  | last {ls : List Lexeme} : code '{' ∉ ls → Outline ls []
  | block {outer inner rest : List Lexeme} {bs : List Block} :
      code '{' ∉ outer → Nested inner → Outline rest bs →
      Outline (outer ++ code '{' :: (inner ++ code '}' :: rest))
        ((between? (outer.flatMap text) (inner.flatMap text)).toList ++ bs)

theorem Outline.named {name : Text} {inner rest : List Lexeme} {bs : List Block}
    (h : Outline rest bs) (hne : name ≠ []) (hchars : ∀ c ∈ name, isNameChar c)
    (hi : Nested inner) :
    Outline ((name ++ [' ']).map code ++ code '{' :: (inner ++ code '}' :: rest))
      (⟨name, inner.flatMap text⟩ :: bs) := by
  have hopen := code_not_mem_name_space hchars (c := '{') (by decide)
  have hblock := Outline.block hopen hi h
  rw [flatMap_text_map_code, between?, nameBefore?_name_space hne hchars] at hblock
  simpa using hblock

theorem exists_outline {ls : List Lexeme} (h : BracesClosed ls) : ∃ bs, Outline ls bs := by
  induction hn : ls.length using Nat.strongRecOn generalizing ls with
  | ind n ih =>
    by_cases hmem : code '{' ∈ ls
    · obtain ⟨outer, behind, rfl, houter⟩ := List.eq_append_cons_of_mem hmem
      obtain ⟨inner, rest, rfl, hinner⟩ := h outer behind rfl
      have hrest : BracesClosed rest := by
        intro o i hoi
        exact h (outer ++ code '{' :: (inner ++ code '}' :: o)) i (by simp [hoi])
      obtain ⟨bs, hbs⟩ := ih rest.length (by simp [← hn]; omega) hrest rfl
      exact ⟨_, .block houter hinner hbs⟩
    · exact ⟨[], .last hmem⟩

theorem Outline.cons_code {ls : List Lexeme} {bs : List Block} (h : Outline ls bs) {c : Char}
    (hc : ¬ isNameChar c) (hbrace : c ≠ '{') : Outline (code c :: ls) bs := by
  cases h with
  | last ho => exact .last (by simp [ho, Ne.symm hbrace])
  | @block outer inner rest bs ho hi hrest =>
    have hname : nameBefore? ((code c :: outer).flatMap text) = nameBefore? (outer.flatMap text) :=
      nameBefore?_append_cons hc [] _
    have hopen : code '{' ∉ code c :: outer := by simp [ho, Ne.symm hbrace]
    rw [between?, ← hname]
    exact .block hopen hi hrest

theorem Outline.foldl {ls : List Lexeme} {bs : List Block} (h : Outline ls bs) (hls : Passable ls)
    (here : Location) (found : List Block) :
    ∃ run, ls.foldl Walk.next ⟨here, outside [], found⟩ =
      ⟨here.after (ls.flatMap text), outside run, found ++ bs⟩ := by
  induction h generalizing here found with
  | last ho =>
    obtain ⟨run, hfold, -⟩ := Walk.foldl_outside ho hls here [] found
    exact ⟨run, by simpa using hfold⟩
  | @block outer inner rest bs ho hi _ ih =>
    obtain ⟨houter, hended⟩ := passable_of_append_cons hls
    have hsplit : outer ++ code '{' :: (inner ++ code '}' :: rest) =
        outer ++ (code '{' :: (inner ++ [code '}'])) ++ rest := by simp
    rw [hsplit] at hls ⊢
    obtain ⟨run, hfold, hrun⟩ := Walk.foldl_outside ho houter here [] found
    have hname : nameOfRun? run = nameBefore? (outer.flatMap text) := by
      rw [hrun hended, List.append_nil, nameBefore?]
    rw [List.takeWhile_nil] at hfold
    rw [List.foldl_append, List.foldl_append, hfold, Walk.foldl_block hi, hname]
    obtain ⟨run', hfold'⟩ := ih (passable_of_append hls) _ _
    refine ⟨run', ?_⟩
    rw [hfold', between?]
    simp [Location.after_append]

theorem Outline.behind {t : Text} {bs : List Block} (h : Outline (lexemes t) bs)
    (hfree : ∀ l ∈ lexemes t, l.fault? = none) :
    ∃ run, Walk.behind (lexemes t) = ⟨Location.start.after t, outside run, bs⟩ := by
  obtain ⟨run, hfold⟩ := h.foldl (passable_of_cut (cut_lexemes t) hfree) .start []
  rw [flatMap_text_lexemes] at hfold
  exact ⟨run, hfold⟩

/-- The scan accepts the texts whose comments and strings end and whose lexemes are whole blocks
with other code around them, and it lists the blocks that have a name. -/
theorem balanced_eq_ok_iff {t : Text} {bs : List Block} :
    balanced t = .ok bs ↔ (∀ l ∈ lexemes t, l.fault? = none) ∧ Outline (lexemes t) bs := by
  have hok : ∀ bs, (∀ l ∈ lexemes t, l.fault? = none) → Outline (lexemes t) bs →
      balanced t = .ok bs := by
    intro bs hfree h
    obtain ⟨run, hbehind⟩ := h.behind hfree
    rw [balanced_of_faultless hfree, hbehind]
    simp [Context.finish, Except.map]
  constructor
  · intro h
    rcases fault_or_faultless (lexemes t) with ⟨pre, l, post, f, hls, hpre, hl⟩ | hfree
    · simp [balanced_of_fault hls hpre hl] at h
    · have hclosed : BracesClosed (lexemes t) := by
        rw [bracesClosed_iff]
        by_contra hd
        obtain ⟨outer, inner, hls, ho, hi⟩ := exists_outermost (Nat.pos_of_ne_zero hd)
        simp [balanced_of_outermost hfree hls ho hi] at h
      obtain ⟨cs, hcs⟩ := exists_outline hclosed
      rw [hok cs hfree hcs, Except.ok.injEq] at h
      exact ⟨hfree, h ▸ hcs⟩
  · intro h
    exact hok bs h.1 h.2

end Block

end DatalogDoc
