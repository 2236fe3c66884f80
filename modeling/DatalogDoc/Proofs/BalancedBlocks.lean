import DatalogDoc.Proofs.Scanning
import Mathlib

/-!
# The balanced blocks of a text

A balanced scan succeeds where every comment and string ends and every opening brace is closed, and
then it lists the named blocks that stand outside every other block.
-/

namespace DatalogDoc

def Lexeme.Terminated (ls : List Lexeme) : Prop :=
  ∀ u, openComment u ∉ ls ∧ openString u ∉ ls

namespace Block

open Lexeme

/-- At index `o` of the text a brace opens outside every other block, behind a name character and a
space. -/
def OpensAt (ls : List Lexeme) (o : Nat) : Prop :=
  ∃ outer inner, ls = outer ++ code '{' :: inner ∧ depth outer = 0 ∧
    o = (outer.flatMap text).length ∧
    ∃ p c, outer.flatMap text = p ++ [c, ' '] ∧ isNameChar c

/-- The block whose brace opens at index `o`: its name is the longest one that the whole text before
the brace gives, and its body lies between the brace and the one that balances it. -/
def StandsAt (ls : List Lexeme) (o : Nat) (b : Block) : Prop :=
  ∃ outer inner rest, ls = outer ++ code '{' :: (inner ++ code '}' :: rest) ∧ depth outer = 0 ∧
    Nested inner ∧ o = (outer.flatMap text).length ∧ Names b.name (outer.flatMap text) ∧
    b.body = inner.flatMap text

def ClosesWith (ls : List Lexeme) (l : Lexeme) (o : Nat) (b : Block) : Prop :=
  l = code '}' ∧ ∃ outer inner, ls = outer ++ code '{' :: inner ∧ depth outer = 0 ∧
    Nested inner ∧ o = (outer.flatMap text).length ∧ Names b.name (outer.flatMap text) ∧
    b.body = inner.flatMap text

theorem standsAt_concat_iff {ls : List Lexeme} {l : Lexeme} {o : Nat} {b : Block} :
    StandsAt (ls ++ [l]) o b ↔ StandsAt ls o b ∨ ClosesWith ls l o b := by
  constructor
  · intro h
    obtain ⟨outer, inner, rest, hls, hd, hi, ho, hname, hbody⟩ := h
    rcases List.eq_nil_or_concat' rest with rfl | ⟨rest, k, rfl⟩
    · have hls' : ls ++ [l] = (outer ++ code '{' :: inner) ++ [code '}'] := by simp [hls]
      obtain ⟨rfl, hl⟩ := List.append_inj' hls' rfl
      exact .inr ⟨by simpa using hl, outer, inner, rfl, hd, hi, ho, hname, hbody⟩
    · have hls' : ls ++ [l] = (outer ++ code '{' :: (inner ++ code '}' :: rest)) ++ [k] := by
        simp [hls]
      obtain ⟨rfl, -⟩ := List.append_inj' hls' rfl
      exact .inl ⟨outer, inner, rest, rfl, hd, hi, ho, hname, hbody⟩
  · intro h
    rcases h with ⟨outer, inner, rest, rfl, h⟩ | ⟨rfl, outer, inner, rfl, h⟩
    · exact ⟨outer, inner, rest ++ [l], by simp, h⟩
    · exact ⟨outer, inner, [], by simp, h⟩

def Lists (ls : List Lexeme) (bs : List Block) : Prop :=
  ∃ os : List Nat, os.Pairwise (· < ·) ∧ (∀ o, o ∈ os ↔ ∃ b, StandsAt ls o b) ∧
    List.Forall₂ (StandsAt ls) os bs

theorem Lists.concat_of_not_closes {ls : List Lexeme} {bs : List Block} (h : Lists ls bs)
    {l : Lexeme} (hl : ∀ o b, ¬ ClosesWith ls l o b) : Lists (ls ++ [l]) bs := by
  obtain ⟨os, hos, hmem, hbs⟩ := h
  refine ⟨os, hos, ?_, ?_⟩
  · simpa [standsAt_concat_iff, hl] using hmem
  · exact hbs.imp fun o b hb => standsAt_concat_iff.mpr (.inl hb)

theorem lt_of_standsAt {outer inner : List Lexeme} {o : Nat} {b : Block}
    (h : StandsAt (outer ++ code '{' :: inner) o b) (hi : ¬ Closed inner) :
    o < (outer.flatMap text).length := by
  obtain ⟨outer', inner', rest, hls, hd', hi', rfl, -, -⟩ := h
  rcases outer_lt_outermost hls hi hd' with rfl | ⟨mid, rfl⟩
  · exact (hi ⟨inner', rest, by simpa using hls, hi'⟩).elim
  · simp [text]

theorem ClosesWith.index_unique {ls : List Lexeme} {l : Lexeme} {o o' : Nat} {b b' : Block}
    (h : ClosesWith ls l o b) (h' : ClosesWith ls l o' b') : o = o' := by
  obtain ⟨-, outer, inner, rfl, hd, hi, rfl, -, -⟩ := h
  obtain ⟨-, outer', inner', hls, hd', hi', rfl, -, -⟩ := h'
  obtain ⟨rfl, -⟩ := outermost_unique hls hd (not_closed_of_level (nested_level hi)) hd'
    (not_closed_of_level (nested_level hi'))
  rfl

theorem Lists.concat_of_closes {ls : List Lexeme} {bs : List Block} (h : Lists ls bs)
    {l : Lexeme} {o : Nat} {b : Block} (hl : ClosesWith ls l o b) :
    Lists (ls ++ [l]) (bs ++ [b]) := by
  obtain ⟨os, hos, hmem, hbs⟩ := h
  refine ⟨os ++ [o], ?_, ?_, ?_⟩
  · rw [List.pairwise_append]
    refine ⟨hos, by simp, ?_⟩
    intro o' ho' o'' ho''
    obtain rfl := List.mem_singleton.mp ho''
    obtain ⟨b', hb'⟩ := (hmem o').mp ho'
    obtain ⟨-, outer, inner, rfl, -, hi, rfl, -, -⟩ := hl
    exact lt_of_standsAt hb' (not_closed_of_level (nested_level hi))
  · intro o'
    rw [List.mem_append, List.mem_singleton, hmem]
    constructor
    · intro h
      rcases h with ⟨b', hb'⟩ | rfl
      · exact ⟨b', standsAt_concat_iff.mpr (.inl hb')⟩
      · exact ⟨b, standsAt_concat_iff.mpr (.inr hl)⟩
    · intro h
      obtain ⟨b', hb'⟩ := h
      rcases standsAt_concat_iff.mp hb' with hb' | hb'
      · exact .inl ⟨b', hb'⟩
      · exact .inr (hb'.index_unique hl)
  · apply List.rel_append (hbs.imp fun o b hb => standsAt_concat_iff.mpr (.inl hb))
    exact .cons (standsAt_concat_iff.mpr (.inr hl)) .nil

theorem not_closesWith_of_outside {ls : List Lexeme} {run : Text}
    (hctx : (Context.outside run).Reached ls) (l : Lexeme) (o : Nat) (b : Block) :
    ¬ ClosesWith ls l o b := by
  intro h
  obtain ⟨-, outer, inner, rfl, -, hi, -⟩ := h
  have hpos := depth_pos_of_not_closed outer (not_closed_of_level (nested_level hi))
  have hzero := hctx.1
  omega

theorem ClosesWith.of_inside {ls : List Lexeme} {l : Lexeme} {o : Nat} {b : Block}
    (h : ClosesWith ls l o b) {block : OpenBlock} (hctx : (Context.inside block).Reached ls) :
    levelBehind block.depth l = none ∧ block.name = some b.name := by
  obtain ⟨outer, inner, rfl, hd, hlevel, -, hname, -⟩ := hctx
  obtain ⟨rfl, outer', inner', hls, hd', hi', -, hnames, -⟩ := h
  obtain ⟨rfl, rfl⟩ := outermost_unique hls hd (not_closed_of_level hlevel) hd'
    (not_closed_of_level (nested_level hi'))
  have hz : block.depth = 0 := by
    rw [nested_level hi'] at hlevel
    exact (Option.some.inj hlevel).symm
  refine ⟨levelBehind_eq_none_iff.mpr ⟨rfl, hz⟩, ?_⟩
  rw [hname, nameBefore?_eq_some_iff.mpr hnames]

theorem exists_closesWith {ls : List Lexeme} {l : Lexeme} {block : OpenBlock} {name : Text}
    (hctx : (Context.inside block).Reached ls) (hn : levelBehind block.depth l = none)
    (hb : block.name = some name) : ∃ o, ClosesWith ls l o ⟨name, block.body⟩ := by
  obtain ⟨outer, inner, rfl, hd, hlevel, hlexemes, hname, -⟩ := hctx
  obtain ⟨rfl, hz⟩ := levelBehind_eq_none_iff.mp hn
  rw [hz] at hlevel
  have hnames : Names name (outer.flatMap text) := by
    rw [← nameBefore?_eq_some_iff, ← hname, hb]
  have hbody : block.body = inner.flatMap text := by
    rw [OpenBlock.body, hlexemes, List.reverse_reverse]
  exact ⟨_, rfl, outer, inner, rfl, hd, nested_of_level hlevel, rfl, hnames, hbody⟩

theorem Lists.step {ls : List Lexeme} {bs : List Block} (h : Lists ls bs) {ctx : Context}
    (hctx : ctx.Reached ls) (l : Lexeme) (here : Location) :
    Lists (ls ++ [l]) (bs ++ (ctx.step here l).2.toList) := by
  cases ctx with
  | outside run =>
    rw [Context.step_outside_found, Option.toList_none, List.append_nil]
    exact h.concat_of_not_closes (not_closesWith_of_outside hctx l)
  | inside block =>
    rw [Context.step_inside]
    cases hn : levelBehind block.depth l with
    | some n =>
      rw [Option.toList_none, List.append_nil]
      apply h.concat_of_not_closes
      intro o b hb
      simp [(hb.of_inside hctx).1] at hn
    | none =>
      cases hname : block.name with
      | none =>
        simp only [OpenBlock.close, hname, Option.map_none, Option.toList_none, List.append_nil]
        apply h.concat_of_not_closes
        intro o b hb
        simp [(hb.of_inside hctx).2] at hname
      | some name =>
        simp only [OpenBlock.close, hname, Option.map_some, Option.toList_some]
        obtain ⟨o, hcloses⟩ := exists_closesWith hctx hn hname
        exact h.concat_of_closes hcloses

/-- The blocks found by a scan are those that stand in the lexemes behind it. -/
theorem lists_behind {ls : List Lexeme} (h : Passable ls) : Lists ls (Walk.behind ls).blocks := by
  induction ls using List.reverseRecOn with
  | nil =>
    refine ⟨[], .nil, ?_, .nil⟩
    intro o
    simp [StandsAt]
  | append_singleton ls l ih =>
    obtain ⟨hls, -, -⟩ := passable_concat h
    rw [Walk.behind_concat]
    exact (ih hls).step (Walk.behind_reached hls) l _

theorem terminated_iff {ls : List Lexeme} : Terminated ls ↔ ∀ l ∈ ls, l.fault? = none := by
  constructor
  · intro h l hl
    cases l with
    | openComment u => exact ((h u).1 hl).elim
    | openString u => exact ((h u).2 hl).elim
    | _ => rfl
  · intro h u
    refine ⟨?_, ?_⟩
    · intro hu
      simpa [fault?] using h _ hu
    · intro hu
      simpa [fault?] using h _ hu

theorem opensAt_iff {ls : List Lexeme} (h : BracesClosed ls) {o : Nat} :
    OpensAt ls o ↔ ∃ b, StandsAt ls o b := by
  constructor
  · intro hopens
    obtain ⟨outer, inner, hls, hd, ho, hnamed⟩ := hopens
    obtain ⟨name, hname⟩ := exists_names_iff.mpr hnamed
    obtain ⟨body, rest, rfl, hbody⟩ := h outer inner hls
    exact ⟨⟨name, body.flatMap text⟩, outer, body, rest, hls, hd, hbody, ho, hname, rfl⟩
  · intro hstands
    obtain ⟨b, outer, inner, rest, hls, hd, -, ho, hname, -⟩ := hstands
    exact ⟨outer, _, hls, hd, ho, exists_names_iff.mp ⟨b.name, hname⟩⟩

/-- The scan accepts the texts whose comments and strings end and whose opening braces are closed,
and it lists a block for each named brace outside every other block. -/
theorem balanced_accepts_and_lists (t : Text) :
    (∀ ls, Cut t ls ↔ ls = lexemes t) ∧
      ((∃ bs, balanced t = .ok bs) ↔ Terminated (lexemes t) ∧ BracesClosed (lexemes t)) ∧
      ∀ bs, balanced t = .ok bs → ∃ os : List Nat, os.Pairwise (· < ·) ∧
        (∀ o, o ∈ os ↔ OpensAt (lexemes t) o) ∧ List.Forall₂ (StandsAt (lexemes t)) os bs := by
  rcases fault_or_faultless (lexemes t) with ⟨pre, l, post, f, hls, hpre, hl⟩ | hfree
  · have herror := balanced_of_fault hls hpre hl
    have hnot : ¬ Terminated (lexemes t) := by
      intro h
      have hnone := terminated_iff.mp h l (by simp [hls])
      simp [hl] at hnone
    refine ⟨fun ls => cut_iff, ?_, ?_⟩
    · simp [herror, hnot]
    · simp [herror]
  · have hterm : Terminated (lexemes t) := terminated_iff.mpr hfree
    by_cases hd : depth (lexemes t) = 0
    · have hclosed : BracesClosed (lexemes t) := bracesClosed_iff.mpr hd
      have hok := balanced_of_depth hfree hd
      refine ⟨fun ls => cut_iff, ?_, ?_⟩
      · simp [hok, hterm, hclosed]
      · intro bs hbs
        obtain rfl : (Walk.behind (lexemes t)).blocks = bs := by simpa [hok] using hbs
        obtain ⟨os, hos, hmem, hlist⟩ := lists_behind (passable_of_cut (cut_lexemes t) hfree)
        refine ⟨os, hos, ?_, hlist⟩
        intro o
        rw [hmem, opensAt_iff hclosed]
    · have hopen : ¬ BracesClosed (lexemes t) := fun h => hd (bracesClosed_iff.mp h)
      obtain ⟨outer, inner, hls, ho, hi⟩ := exists_outermost (Nat.pos_of_ne_zero hd)
      have herror := balanced_of_outermost hfree hls ho hi
      refine ⟨fun ls => cut_iff, ?_, ?_⟩
      · simp [herror, hopen]
      · simp [herror]

def mixedSample : Text :=
  "A-b \x7bx \x7by\x7d \"\x7d\" /* \x7d */\x7d \x7bz\x7d \x7dC \x7bw\x7d".toList

theorem balanced_mixedSample :
    balanced mixedSample = .ok [⟨"A-b".toList, "x \x7by\x7d \"\x7d\" /* \x7d */".toList⟩,
      ⟨"C".toList, "w".toList⟩] := by
  cbv

theorem mixedSample_lists_two_blocks :
    ∃ os : List Nat, os.Pairwise (· < ·) ∧ (∀ o, o ∈ os ↔ OpensAt (lexemes mixedSample) o) ∧
      List.Forall₂ (StandsAt (lexemes mixedSample)) os
        [⟨"A-b".toList, "x \x7by\x7d \"\x7d\" /* \x7d */".toList⟩, ⟨"C".toList, "w".toList⟩] :=
  (balanced_accepts_and_lists mixedSample).2.2 _ balanced_mixedSample

end Block

end DatalogDoc
