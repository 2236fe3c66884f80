import DatalogDoc.Proofs.Outline
import DatalogDoc.Proofs.Seams

/-!
# What comments and strings hold

The interior of a comment or a string has no say in the structure of a text. A scan of the same text
with another interior there ends in the same way, and finds the same blocks but for that interior.
-/

namespace DatalogDoc

theorem Escaped.of_plain {t : Text} (h : ∀ c ∈ t, c ≠ '"' ∧ c ≠ '\\' ∧ c ≠ '\n') : Escaped t := by
  induction t with
  | nil => exact .nil
  | cons c t ih =>
    obtain ⟨hquote, hslash, hline⟩ := h c (by simp)
    exact .plain hquote hline hslash (ih fun d hd => h d (by simp [hd]))

theorem append_cons_split {α : Type} {a b : α} {xs ys zs ws : List α}
    (h : xs ++ a :: ys = zs ++ b :: ws) (hne : a ≠ b) :
    (∃ m, xs = zs ++ b :: m ∧ ws = m ++ a :: ys) ∨ ∃ m, ys = m ++ b :: ws ∧ zs = xs ++ a :: m := by
  rcases List.append_eq_append_iff.mp h with ⟨m, hz, ha⟩ | ⟨m, hx, hb⟩
  · right
    cases m with
    | nil => exact (hne (List.cons.inj ha).1).elim
    | cons c m =>
      obtain ⟨rfl, hys⟩ := List.cons.inj ha
      exact ⟨m, hys, hz⟩
  · left
    cases m with
    | nil => exact (hne (List.cons.inj hb).1.symm).elim
    | cons c m =>
      obtain ⟨rfl, hws⟩ := List.cons.inj hb
      exact ⟨m, hx, hws⟩

/-- What is wrong with these lexemes: the first fault that one of them carries, or else a brace left
open. -/
def Lexeme.verdict? (ls : List Lexeme) : Option Fault :=
  (ls.findSome? fault?).or (if depth ls = 0 then none else some .openBlock)

inductive Enclosure
  | blockComment
  | lineComment (ended : Bool)
  | quoted

namespace Enclosure

open Lexeme

def around : Enclosure → Text → Lexeme
  | blockComment, u => .blockComment u
  | lineComment ended, u => .lineComment u ended
  | quoted, u => .quoted u

/-- The interiors that end where the comment or the string does. -/
def Admits : Enclosure → Text → Prop
  | blockComment, u => ¬ ['*', '/'] <:+: u
  | lineComment _, u => '\n' ∉ u
  | quoted, u => Escaped u

/-- The text in which the comment or string stands between these lexemes. -/
def between (k : Enclosure) (pre post : List Lexeme) (u : Text) : Text :=
  pre.flatMap text ++ ((k.around u).text ++ post.flatMap text)

variable {k : Enclosure} {u v : Text}

@[simp] theorem fault?_around : (k.around u).fault? = none := by
  cases k <;> rfl

theorem around_ne_code (c : Char) : k.around u ≠ code c := by
  cases k <;> simp [around]

theorem text_head?_around : (k.around u).text.head? = (k.around v).text.head? := by
  cases k with
  | lineComment ended => cases ended <;> rfl
  | _ => rfl

@[simp] theorem levelBehind_around (n : Nat) : levelBehind n (k.around u) = some n := by
  simp [levelBehind, around_ne_code]

@[simp] theorem depthBehind_around (n : Nat) : depthBehind n (k.around u) = n := by
  simp [depthBehind, around_ne_code]

theorem admits_of_fits {rest : Text} (h : (k.around u).Fits rest) : k.Admits u := by
  cases k with
  | lineComment ended =>
    cases ended with
    | true => exact h
    | false => exact h.1
  | _ => exact h

theorem fits_of_admits {rest : Text} (h : (k.around u).Fits rest) (hv : k.Admits v) :
    (k.around v).Fits rest := by
  cases k with
  | lineComment ended =>
    cases ended with
    | true => exact hv
    | false => exact ⟨hv, h.2⟩
  | _ => exact hv

theorem code_not_mem_around {c : Char} {pre post : List Lexeme}
    (h : code c ∉ pre ++ k.around u :: post) : code c ∉ pre ++ k.around v :: post := by
  simp only [List.mem_append, List.mem_cons, not_or] at h ⊢
  exact ⟨h.1, (around_ne_code c).symm, h.2.2⟩

theorem nameBefore?_around (hk : k ≠ lineComment false) (pre post : List Lexeme) :
    Block.nameBefore? ((pre ++ k.around u :: post).flatMap text) =
      Block.nameBefore? (post.flatMap text) := by
  have hend : ∃ front c, (k.around u).text = front ++ [c] ∧ ¬ Block.isNameChar c := by
    cases k with
    | blockComment => exact ⟨'/' :: '*' :: u ++ ['*'], '/', by simp [around, text], by decide⟩
    | lineComment ended =>
      cases ended with
      | true => exact ⟨'/' :: '/' :: u, '\n', rfl, by decide⟩
      | false => exact (hk rfl).elim
    | quoted => exact ⟨'"' :: u, '"', rfl, by decide⟩
  obtain ⟨front, c, htext, hc⟩ := hend
  have hsplit : (pre ++ k.around u :: post).flatMap text =
      (pre.flatMap text ++ front) ++ c :: post.flatMap text := by
    simp [htext]
  rw [hsplit, Block.nameBefore?_append_cons hc]

theorem level_around (pre post : List Lexeme) :
    level (pre ++ k.around u :: post) = level (pre ++ k.around v :: post) := by
  simp [level_append, List.foldlM_cons]

theorem depth_around (pre post : List Lexeme) :
    depth (pre ++ k.around u :: post) = depth (pre ++ k.around v :: post) := by
  simp [depth_append]

theorem nested_around {pre post : List Lexeme} (h : Nested (pre ++ k.around u :: post)) :
    Nested (pre ++ k.around v :: post) := by
  apply nested_of_level
  rw [← level_around (u := u), nested_level h]

theorem verdict?_around (pre post : List Lexeme) :
    verdict? (pre ++ k.around u :: post) = verdict? (pre ++ k.around v :: post) := by
  simp [verdict?, depth_around (v := v)]

theorem cut_between {t : Text} {pre post : List Lexeme} (h : Cut t (pre ++ k.around u :: post))
    (hv : k.Admits v) : Cut (k.between pre post v) (pre ++ k.around v :: post) := by
  obtain ⟨hfits, hpost⟩ := h.of_append.of_cons
  apply h.splice (.cons (fits_of_admits hfits hv) hpost)
  rw [List.flatMap_cons, text_head?_append, text_head?_append, text_head?_around]

end Enclosure

namespace Block

open Lexeme

variable {k : Enclosure} {u : Text}

theorem Outline.around {pre post : List Lexeme} {bs : List Block}
    (h : Outline (pre ++ k.around u :: post) bs) (hk : post ≠ [] → k ≠ .lineComment false) :
    (∀ v, Outline (pre ++ k.around v :: post) bs) ∨
      ∃ front name p q back, p <:+ pre.flatMap text ∧ q <+: post.flatMap text ∧
        ∀ v, Outline (pre ++ k.around v :: post)
          (front ++ ⟨name, p ++ (k.around v).text ++ q⟩ :: back) := by
  generalize hls : pre ++ k.around u :: post = ls at h
  induction h generalizing pre with
  | last ho =>
    left
    intro v
    rw [← hls] at ho
    exact .last (Enclosure.code_not_mem_around ho)
  | @block outer inner rest bs ho hi hrest ih =>
    rcases append_cons_split hls (Enclosure.around_ne_code '{') with
      ⟨m, rfl, hbehind⟩ | ⟨m, rfl, rfl⟩
    · rcases append_cons_split hbehind.symm (Enclosure.around_ne_code '}') with
        ⟨n, rfl, rfl⟩ | ⟨n, rfl, rfl⟩
      · -- It stands behind the first block.
        rcases ih rfl with hsame | ⟨front, name, p, q, back, hp, hq, hbody⟩
        · left
          intro v
          have hblock := Outline.block ho hi (hsame v)
          simpa using hblock
        · right
          refine ⟨(between? (outer.flatMap text) (inner.flatMap text)).toList ++ front, name, p, q,
            back, ?_, hq, ?_⟩
          · apply hp.trans
            refine ⟨(outer ++ code '{' :: (inner ++ [code '}'])).flatMap text, ?_⟩
            simp
          · intro v
            have hblock := Outline.block ho hi (hbody v)
            simpa using hblock
      · -- It stands inside the first block.
        have hblock := fun v => Outline.block ho (Enclosure.nested_around (v := v) hi) hrest
        cases hname : nameBefore? (outer.flatMap text) with
        | none =>
          left
          intro v
          simpa [between?, hname] using hblock v
        | some name =>
          right
          refine ⟨[], name, m.flatMap text, n.flatMap text, bs, ?_, ?_, ?_⟩
          · exact ⟨(outer ++ [code '{']).flatMap text, by simp⟩
          · exact ⟨(code '}' :: rest).flatMap text, by simp⟩
          · intro v
            simpa [between?, hname] using hblock v
    · -- It stands in front of the first block, and the name is read behind it.
      left
      intro v
      have hname : ∀ w, nameBefore? ((pre ++ k.around w :: m).flatMap text) =
          nameBefore? (m.flatMap text) :=
        fun w => Enclosure.nameBefore?_around (hk (by simp)) pre m
      have hblock := Outline.block (Enclosure.code_not_mem_around (v := v) ho) hi hrest
      rw [between?, hname, ← hname u, ← between?] at hblock
      simpa using hblock

theorem balanced_of_verdict {t : Text} {f : Fault} (h : verdict? (lexemes t) = some f) :
    ∃ place, balanced t = .error ⟨f, place⟩ := by
  rw [verdict?, Option.or_eq_some_iff] at h
  rcases h with hf | ⟨hfree, hopen⟩
  · obtain ⟨pre, l, post, hls, hl, hpre⟩ := List.findSome?_eq_some_iff.mp hf
    exact ⟨_, balanced_of_fault hls hpre hl⟩
  · split_ifs at hopen with hd
    obtain rfl := Option.some.inj hopen
    obtain ⟨outer, inner, hls, ho, hi⟩ := exists_outermost (Nat.pos_of_ne_zero hd)
    exact ⟨_, balanced_of_outermost (List.findSome?_eq_none_iff.mp hfree) hls ho hi⟩

theorem exists_outline_of_verdict {ls : List Lexeme} (h : verdict? ls = none) :
    (∀ l ∈ ls, l.fault? = none) ∧ ∃ bs, Outline ls bs := by
  rw [verdict?, Option.or_eq_none_iff, List.findSome?_eq_none_iff] at h
  obtain ⟨hfree, hopen⟩ := h
  refine ⟨hfree, exists_outline (bracesClosed_iff.mpr ?_)⟩
  by_contra hd
  simp [hd] at hopen

/-- Whatever a comment or a string holds, a scan says the same: it fails in the same way, or it
finds the same blocks, but for the interior where one body holds the comment or string. -/
theorem balanced_around {t : Text} {pre post : List Lexeme}
    (h : lexemes t = pre ++ k.around u :: post) :
    t = k.between pre post u ∧ k.Admits u ∧
      ((∃ f, ∀ v, k.Admits v → ∃ place, balanced (k.between pre post v) = .error ⟨f, place⟩) ∨
        (∃ bs, ∀ v, k.Admits v → balanced (k.between pre post v) = .ok bs) ∨
        ∃ front name p q back, p <:+ pre.flatMap text ∧ q <+: post.flatMap text ∧
          ∀ v, k.Admits v → balanced (k.between pre post v) =
            .ok (front ++ ⟨name, p ++ (k.around v).text ++ q⟩ :: back)) := by
  have hcut : Cut t (pre ++ k.around u :: post) := cut_iff.mpr h.symm
  have hfits := hcut.of_append.of_cons.1
  have hls : ∀ v, k.Admits v → lexemes (k.between pre post v) = pre ++ k.around v :: post :=
    fun v hv => (cut_iff.mp (Enclosure.cut_between hcut hv)).symm
  refine ⟨?_, Enclosure.admits_of_fits hfits, ?_⟩
  · rw [← hcut.flatMap_text]
    simp [Enclosure.between]
  cases hverdict : verdict? (pre ++ k.around u :: post) with
  | some f =>
    left
    refine ⟨f, fun v hv => balanced_of_verdict ?_⟩
    rw [hls v hv, Enclosure.verdict?_around (v := u), hverdict]
  | none =>
    right
    obtain ⟨-, bs, hbs⟩ := exists_outline_of_verdict hverdict
    have hok : ∀ v, k.Admits v → ∀ cs, Outline (pre ++ k.around v :: post) cs →
        balanced (k.between pre post v) = .ok cs := by
      intro v hv cs hcs
      rw [Enclosure.verdict?_around (v := v)] at hverdict
      rw [balanced_eq_ok_iff, hls v hv]
      exact ⟨(exists_outline_of_verdict hverdict).1, hcs⟩
    -- A line comment without its newline has nothing behind it whose name it could be part of.
    have hend : post ≠ [] → k ≠ .lineComment false := by
      rintro hpost rfl
      cases post with
      | nil => exact hpost rfl
      | cons l post => simp [Enclosure.around, Fits, text_ne_nil] at hfits
    rcases hbs.around hend with hsame | ⟨front, name, p, q, back, hp, hq, hbody⟩
    · exact .inl ⟨bs, fun v hv => hok v hv bs (hsame v)⟩
    · exact .inr ⟨front, name, p, q, back, hp, hq, fun v hv => hok v hv _ (hbody v)⟩

/-- A string in a block, with a nested block and another one behind it. -/
def stringSample : Text := "A \x7bx \"y\" \x7bz\x7d\x7d B \x7bw\x7d".toList

def stringFront : List Lexeme := "A \x7bx ".toList.map code

def stringBehind : List Lexeme := " \x7bz\x7d\x7d B \x7bw\x7d".toList.map code

theorem lexemes_stringSample :
    lexemes stringSample = stringFront ++ Enclosure.quoted.around "y".toList :: stringBehind := by
  cbv

theorem stringSample_around :
    let k := Enclosure.quoted
    lexemes stringSample = stringFront ++ k.around "y".toList :: stringBehind ∧
      k.Admits "\x7d\x7d C \x7b //".toList ∧
      stringSample = k.between stringFront stringBehind "y".toList ∧ k.Admits "y".toList ∧
      ((∃ f, ∀ v, k.Admits v →
          ∃ place, balanced (k.between stringFront stringBehind v) = .error ⟨f, place⟩) ∨
        (∃ bs, ∀ v, k.Admits v → balanced (k.between stringFront stringBehind v) = .ok bs) ∨
        ∃ front name p q back, p <:+ stringFront.flatMap text ∧ q <+: stringBehind.flatMap text ∧
          ∀ v, k.Admits v → balanced (k.between stringFront stringBehind v) =
            .ok (front ++ ⟨name, p ++ (k.around v).text ++ q⟩ :: back)) :=
  ⟨lexemes_stringSample, Escaped.of_plain (by simp), balanced_around lexemes_stringSample⟩

end Block

end DatalogDoc
