import DatalogDoc.Block.Balanced
import DatalogDoc.Proofs.Cutting
import DatalogDoc.Proofs.Naming
import DatalogDoc.Proofs.Nesting

/-!
# The state of a scan

What a scanner keeps between two lexemes is determined by the lexemes behind it: the depth of
braces, the run of name characters, and the block that is open.
-/

namespace DatalogDoc

structure Walk where
  location : Location
  context : Context
  blocks : List Block

namespace Walk

def start : Walk := ⟨.start, .outside [], []⟩

def next (p : Walk) (l : Lexeme) : Walk :=
  ⟨p.location.after l.text, (p.context.step p.location l).1,
    p.blocks ++ (p.context.step p.location l).2.toList⟩

def behind (ls : List Lexeme) : Walk := ls.foldl next start

theorem behind_concat (ls : List Lexeme) (l : Lexeme) :
    behind (ls ++ [l]) = (behind ls).next l := by
  simp [behind, List.foldl_append]

def resume (p : Walk) (ls : List Lexeme) : Except ScanError (List Block) × Scanner :=
  let (outcome, scanner) := Scanner.scan p.location p.context ls
  (outcome.map (p.blocks ++ ·), scanner)

theorem resume_nil (p : Walk) :
    p.resume [] = (p.context.finish.map (p.blocks ++ ·), ⟨[], p.location⟩) := rfl

theorem resume_cons_of_fault (p : Walk) {l : Lexeme} {f : Fault} (hl : l.fault? = some f)
    (ls : List Lexeme) :
    p.resume (l :: ls) = (.error ⟨f, p.location⟩, ⟨ls, p.location.after l.text⟩) := by
  simp [resume, Scanner.scan, hl, Except.map]

theorem resume_cons (p : Walk) {l : Lexeme} (hl : l.fault? = none) (ls : List Lexeme) :
    p.resume (l :: ls) = (p.next l).resume ls := by
  simp only [resume, Scanner.scan, hl, next]
  cases (Scanner.scan (p.location.after l.text) (p.context.step p.location l).1 ls).1 <;>
    simp [Except.map]

theorem resume_append (p : Walk) {ls : List Lexeme} (hls : ∀ l ∈ ls, l.fault? = none)
    (ks : List Lexeme) : p.resume (ls ++ ks) = (ls.foldl next p).resume ks := by
  induction ls generalizing p with
  | nil => rfl
  | cons l ls ih =>
    rw [List.cons_append, resume_cons p (hls l (by simp)),
      ih (p.next l) (fun k hk => hls k (by simp [hk])), List.foldl_cons]

theorem resume_fresh (here : Location) (ctx : Context) (ls : List Lexeme) :
    resume ⟨here, ctx, []⟩ ls = Scanner.scan here ctx ls := by
  simp only [resume]
  generalize Scanner.scan here ctx ls = result
  obtain ⟨outcome, scanner⟩ := result
  cases outcome <;> rfl

theorem start_resume (ls : List Lexeme) :
    start.resume ls = Scanner.scan .start (.outside []) ls := resume_fresh .start (.outside []) ls

theorem foldl_location (p : Walk) (ls : List Lexeme) :
    (ls.foldl next p).location = p.location.after (ls.flatMap Lexeme.text) := by
  induction ls generalizing p with
  | nil => rfl
  | cons l ls ih =>
    rw [List.foldl_cons, ih, List.flatMap_cons, Location.after_append]
    rfl

end Walk

namespace Lexeme

def Ended (ls : List Lexeme) : Prop := ∀ u, lineComment u false ∉ ls

theorem ended_of_cut {t : Text} {ls ks : List Lexeme} {l : Lexeme}
    (h : Cut t (ls ++ l :: ks)) : Ended ls := by
  induction ls generalizing t with
  | nil => simp [Ended]
  | cons k ls ih =>
    cases h with
    | cons hk hrest =>
      intro u hu
      rcases List.mem_cons.mp hu with rfl | hu
      · obtain ⟨-, rfl⟩ := hk
        have hnil := cut_iff.mp hrest
        simp [lexemes] at hnil
      · exact ih hrest u hu

/-- Lexemes without a fault, with nothing behind a line comment that runs up to the end of the
text. -/
def Passable (ls : List Lexeme) : Prop :=
  (∀ l ∈ ls, l.fault? = none) ∧ Ended ls.dropLast

theorem passable_concat {ls : List Lexeme} {l : Lexeme} (h : Passable (ls ++ [l])) :
    Passable ls ∧ Ended ls ∧ l.fault? = none := by
  obtain ⟨hls, he⟩ := h
  rw [List.dropLast_concat] at he
  refine ⟨⟨?_, ?_⟩, he, hls l (by simp)⟩
  · intro k hk
    exact hls k (by simp [hk])
  · intro u hu
    exact he u (List.dropLast_subset ls hu)

theorem passable_of_cut {t : Text} {ls : List Lexeme} (h : Cut t ls)
    (hls : ∀ l ∈ ls, l.fault? = none) : Passable ls := by
  refine ⟨hls, ?_⟩
  rcases List.eq_nil_or_concat' ls with rfl | ⟨ls, l, rfl⟩
  · simp [Ended]
  · rw [List.dropLast_concat]
    exact ended_of_cut h

theorem takeWhile_reverse_text {l : Lexeme} (hl : l.fault? = none) (hc : ∀ c, l ≠ code c)
    (he : Ended [l]) (t : Text) :
    (l.text.reverse ++ t).takeWhile Block.isNameChar = [] := by
  cases l with
  | blockComment u => simp [text, Block.isNameChar]
  | lineComment u ended =>
    cases ended with
    | true => simp [text, Block.isNameChar]
    | false => exact (he u (by simp)).elim
  | quoted u => simp [text, Block.isNameChar]
  | code c => exact (hc c rfl).elim
  | openComment u => simp [fault?] at hl
  | openString u => simp [fault?] at hl

end Lexeme

namespace Context

open Lexeme

/-- Inside a block, a lexeme closes it or leaves it open with a new count of inner braces. -/
theorem step_inside (here : Location) (b : OpenBlock) (l : Lexeme) :
    (inside b).step here l =
      match levelBehind b.depth l with
      | none => (outside [], b.close)
      | some n => (inside { b.push l with depth := n }, none) := by
  by_cases ho : l = code '{'
  · subst ho
    rfl
  · by_cases hc : l = code '}'
    · subst hc
      cases hd : b.depth <;> simp [step, hd, levelBehind]
    · simp only [levelBehind, ho, hc, if_false]
      cases l with
      | code c =>
        have ho' : c ≠ '{' := fun h => ho (by rw [h])
        have hc' : c ≠ '}' := fun h => hc (by rw [h])
        simp [step, OpenBlock.push]
      | _ => rfl

theorem step_outside (here : Location) (t : Text) {l : Lexeme} (ho : l ≠ code '{') :
    ∃ run, (outside (t.takeWhile Block.isNameChar)).step here l = (outside run, none) ∧
      (l.fault? = none → Ended [l] → run = (l.text.reverse ++ t).takeWhile Block.isNameChar) := by
  by_cases hcode : ∃ c, l = code c
  · obtain ⟨c, rfl⟩ := hcode
    have ho' : c ≠ '{' := fun h => ho (by rw [h])
    refine ⟨if Block.isNameChar c then c :: t.takeWhile Block.isNameChar else [], ?_, ?_⟩
    · simp [step]
    · intro _ _
      simp [text, List.takeWhile_cons]
  · have hc : ∀ c, l ≠ code c := fun c h => hcode ⟨c, h⟩
    refine ⟨[], ?_, fun hl he => (takeWhile_reverse_text hl hc he t).symm⟩
    cases l with
    | code c => exact (hc c rfl).elim
    | _ => rfl

@[simp] theorem step_outside_found (here : Location) (run : Text) (l : Lexeme) :
    ((outside run).step here l).2 = none := by
  cases l with
  | code c =>
    by_cases hc : c = '{'
    · subst hc
      rfl
    · simp [step]
  | _ => rfl

/-- What a context holds, said by the lexemes behind it. -/
def Reached (ls : List Lexeme) : Context → Prop
  | outside run =>
    depth ls = 0 ∧ (Ended ls → run = (ls.flatMap text).reverse.takeWhile Block.isNameChar)
  | inside b => ∃ outer inner, ls = outer ++ code '{' :: inner ∧ depth outer = 0 ∧
      level inner = some b.depth ∧ b.lexemes = inner.reverse ∧
      b.name = Block.nameBefore? (outer.flatMap text) ∧
      b.location = Location.start.after (outer.flatMap text)

theorem Reached.step {ls : List Lexeme} {ctx : Context} (h : ctx.Reached ls) (he : Ended ls)
    {l : Lexeme} (hl : l.fault? = none) :
    (ctx.step (Location.start.after (ls.flatMap text)) l).1.Reached (ls ++ [l]) := by
  cases ctx with
  | outside run =>
    obtain ⟨hd, hrun⟩ := h
    rw [hrun he]
    by_cases ho : l = code '{'
    · subst ho
      exact ⟨ls, [], rfl, hd, rfl, rfl, rfl, rfl⟩
    · obtain ⟨run', hstep, hrun'⟩ :=
        step_outside (Location.start.after (ls.flatMap text)) (ls.flatMap text).reverse ho
      rw [hstep]
      refine ⟨?_, ?_⟩
      · simp [depth_concat, hd, depthBehind, ho]
      · intro he'
        rw [hrun' hl (fun u hu => he' u (by simp_all))]
        simp
  | inside b =>
    obtain ⟨outer, inner, rfl, hd, hlevel, hlexemes, hname, hloc⟩ := h
    rw [step_inside]
    cases hn : levelBehind b.depth l with
    | none =>
      obtain ⟨rfl, hz⟩ := levelBehind_eq_none_iff.mp hn
      refine ⟨?_, ?_⟩
      · rw [depth_concat, depth_block outer hlevel, hd, hz]
        rfl
      · intro _
        simp [text, Block.isNameChar]
    | some n =>
      refine ⟨outer, inner ++ [l], by simp, hd, ?_, ?_, hname, hloc⟩
      · rw [level_concat, hlevel]
        exact hn
      · simp [OpenBlock.push, hlexemes]

end Context

namespace Walk

open Lexeme

theorem behind_location (ls : List Lexeme) :
    (behind ls).location = Location.start.after (ls.flatMap text) := foldl_location start ls

theorem behind_reached {ls : List Lexeme} (h : Passable ls) : (behind ls).context.Reached ls := by
  induction ls using List.reverseRecOn with
  | nil => exact ⟨rfl, fun _ => rfl⟩
  | append_singleton ls l ih =>
    obtain ⟨hls, he, hl⟩ := passable_concat h
    rw [behind_concat, next, behind_location]
    exact (ih hls).step he hl

theorem behind_finish_of_depth {ls : List Lexeme} (h : Passable ls) (hd : depth ls = 0) :
    (behind ls).context.finish = .ok [] := by
  have hctx := behind_reached h
  cases hc : (behind ls).context with
  | outside run => rfl
  | inside b =>
    rw [hc] at hctx
    obtain ⟨outer, inner, rfl, -, hlevel, -⟩ := hctx
    rw [depth_block outer hlevel] at hd
    omega

theorem behind_finish_of_outermost {outer inner : List Lexeme}
    (h : Passable (outer ++ code '{' :: inner)) (hd : depth outer = 0) (hi : ¬ Closed inner) :
    (behind (outer ++ code '{' :: inner)).context.finish =
      .error ⟨.openBlock, Location.start.after (outer.flatMap text)⟩ := by
  have hctx := behind_reached h
  cases hc : (behind (outer ++ code '{' :: inner)).context with
  | outside run =>
    rw [hc] at hctx
    have hpos := depth_pos_of_not_closed outer hi
    have hzero := hctx.1
    omega
  | inside b =>
    rw [hc] at hctx
    obtain ⟨outer', inner', hls, hd', hlevel, -, -, hloc⟩ := hctx
    obtain ⟨rfl, -⟩ := outermost_unique hls hd hi hd' (not_closed_of_level hlevel)
    rw [Context.finish, hloc]

end Walk

namespace Block

open Lexeme

theorem balanced_eq_resume (t : Text) : balanced t = (Walk.start.resume (lexemes t)).1 := by
  rw [Walk.start_resume]
  rfl

variable {t : Text}

theorem balanced_of_fault {pre post : List Lexeme} {l : Lexeme} {f : Fault}
    (h : lexemes t = pre ++ l :: post) (hpre : ∀ k ∈ pre, k.fault? = none)
    (hl : l.fault? = some f) :
    balanced t = .error ⟨f, Location.start.after (pre.flatMap text)⟩ := by
  rw [balanced_eq_resume, h, Walk.resume_append _ hpre, Walk.resume_cons_of_fault _ hl]
  rw [← Walk.behind_location]
  rfl

theorem balanced_of_faultless (h : ∀ l ∈ lexemes t, l.fault? = none) :
    balanced t =
      (Walk.behind (lexemes t)).context.finish.map ((Walk.behind (lexemes t)).blocks ++ ·) := by
  rw [balanced_eq_resume, ← List.append_nil (lexemes t), Walk.resume_append _ h, Walk.resume_nil,
    List.append_nil]
  rfl

theorem balanced_of_depth (h : ∀ l ∈ lexemes t, l.fault? = none) (hd : depth (lexemes t) = 0) :
    balanced t = .ok (Walk.behind (lexemes t)).blocks := by
  have hp : Passable (lexemes t) := passable_of_cut (cut_lexemes t) h
  rw [balanced_of_faultless h, Walk.behind_finish_of_depth hp hd]
  simp [Except.map]

theorem balanced_of_outermost {outer inner : List Lexeme}
    (h : ∀ l ∈ lexemes t, l.fault? = none) (hls : lexemes t = outer ++ code '{' :: inner)
    (hd : depth outer = 0) (hi : ¬ Closed inner) :
    balanced t = .error ⟨.openBlock, Location.start.after (outer.flatMap text)⟩ := by
  have hp : Passable (lexemes t) := passable_of_cut (cut_lexemes t) h
  rw [hls] at hp
  rw [balanced_of_faultless h, hls, Walk.behind_finish_of_outermost hp hd hi]
  rfl

theorem fault_or_faultless (ls : List Lexeme) :
    (∃ pre l post f, ls = pre ++ l :: post ∧ (∀ k ∈ pre, k.fault? = none) ∧ l.fault? = some f) ∨
      ∀ l ∈ ls, l.fault? = none := by
  cases hf : ls.findSome? fault? with
  | none => exact .inr (List.findSome?_eq_none_iff.mp hf)
  | some f =>
    obtain ⟨pre, l, post, hls, hl, hpre⟩ := List.findSome?_eq_some_iff.mp hf
    exact .inl ⟨pre, l, post, f, hls, hpre, hl⟩

end Block

end DatalogDoc
