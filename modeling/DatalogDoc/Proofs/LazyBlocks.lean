import DatalogDoc.Block.Lazy
import DatalogDoc.Proofs.Naming
import DatalogDoc.Proofs.Spans

/-!
# The lazy blocks of a text

They are read from the leftmost matches of one shape, each named by the longest run of name
characters in front of its brace.
-/

namespace DatalogDoc.Block

/-- The written form of a block with a proper name, whose body has no closing brace. -/
def Shape (b : Block) (w : Text) : Prop :=
  w = b.print ∧ b.name ≠ [] ∧ (∀ c ∈ b.name, isNameChar c) ∧ '}' ∉ b.body

theorem not_isNameChar_open : ¬ isNameChar '{' := by decide

theorem not_isNameChar_close : ¬ isNameChar '}' := by decide

theorem Shape.getLast?_eq {b : Block} {w : Text} (h : Shape b w) : w.getLast? = some '}' := by
  rw [h.1, print, List.getLast?_concat]

theorem Shape.of_opening {b : Block} {w : Text} (h : Shape b w) {t p after before inside : Text}
    (ht : t = p ++ w ++ after) (hopen : opening.seek t = some (before, inside)) :
    (before = p ++ b.name ++ [' '] ∧ inside = b.body ++ '}' :: after) ∨
      ∃ q, p = before ++ '{' :: q ∧ inside = q ++ w ++ after := by
  obtain ⟨hw, -, hchars, -⟩ := h
  have hcut := Mark.seek_char_eq_some_iff.mp hopen
  by_cases hlen : p.length ≤ before.length
  · left
    have hp : '{' ∉ p := by
      intro hmem
      rw [hcut.1, List.append_assoc] at ht
      obtain ⟨q, hq, -⟩ := append_split ht.symm hlen
      exact hcut.2 (by simp [hq, hmem])
    have hname : '{' ∉ b.name := by
      intro hmem
      exact not_isNameChar_open (hchars _ hmem)
    have hsame : opening.seek t = some (p ++ b.name ++ [' '], b.body ++ '}' :: after) := by
      apply Mark.seek_char_eq_some_iff.mpr
      refine ⟨by simp [ht, hw, print], ?_⟩
      simp [hp, hname]
    rw [hopen] at hsame
    simpa using hsame
  · right
    have hsplit : (before ++ ['{']) ++ inside = p ++ (w ++ after) := by
      rw [← List.append_assoc p, ← ht, hcut.1]
      simp
    have hshort : (before ++ ['{']).length ≤ p.length := by
      simp only [List.length_append, List.length_singleton]
      omega
    obtain ⟨q, hp, hinside⟩ := append_split hsplit hshort
    exact ⟨q, by simp [hp], by rw [hinside, List.append_assoc]⟩

theorem Shape.close_mem {b : Block} {w : Text} (h : Shape b w) {t p after before inside : Text}
    (ht : t = p ++ w ++ after) (hopen : opening.seek t = some (before, inside)) :
    '}' ∈ inside := by
  rcases h.of_opening ht hopen with ⟨-, hinside⟩ | ⟨q, -, hinside⟩
  · simp [hinside]
  · simp [hinside, h.1, print]

theorem Shape.behind_unnamed {b : Block} {w : Text} (h : Shape b w)
    {t p after before inside : Text} (ht : t = p ++ w ++ after)
    (hopen : opening.seek t = some (before, inside)) (hname : nameBefore? before = none) :
    before.length < p.length := by
  rcases h.of_opening ht hopen with ⟨hbefore, -⟩ | ⟨q, hp, -⟩
  · exfalso
    obtain ⟨-, hne, hchars, -⟩ := h
    have hnamed : ∃ name, Names name before := by
      apply exists_names_iff.mpr
      refine ⟨p ++ b.name.dropLast, b.name.getLast hne, ?_, hchars _ (List.getLast_mem hne)⟩
      rw [hbefore, append_name_space hne]
    obtain ⟨name, hnames⟩ := hnamed
    rw [nameBefore?_eq_some_iff.mpr hnames] at hname
    simp at hname
  · simp [hp]

theorem Shape.length_le_of_named {b : Block} {w : Text} (h : Shape b w)
    {t p after pre name inside : Text} (ht : t = p ++ w ++ after)
    (hopen : opening.seek t = some (pre ++ name ++ [' '], inside))
    (hpre : ∀ c ∈ pre.getLast?, ¬ isNameChar c) : pre.length ≤ p.length := by
  rcases h.of_opening ht hopen with ⟨hbefore, -⟩ | ⟨q, hp, -⟩
  · by_contra hlen
    have hrun : pre ++ name = p ++ b.name := List.append_cancel_right hbefore
    obtain ⟨q, rfl, hq⟩ := append_split hrun.symm (by omega)
    cases hlast : q.getLast? with
    | none => simp [List.getLast?_eq_none_iff.mp hlast] at hlen
    | some c =>
      apply hpre c (by simp [hlast])
      apply h.2.2.1
      simp [hq, List.mem_of_getLast? hlast]
  · simp only [hp, List.length_append]
    omega

theorem exists_first_named {t before inside name body rest : Text}
    (hopen : opening.seek t = some (before, inside)) (hname : nameBefore? before = some name)
    (hclose : closing.seek inside = some (body, rest)) :
    ∃ p w, t = p ++ w ++ rest ∧ Shape ⟨name, body⟩ w ∧ (∀ c ∈ p.getLast?, ¬ isNameChar c) ∧
      ∀ b v after c, t = b ++ v ++ after → Shape c v → p.length ≤ b.length := by
  obtain ⟨p, rfl, hne, hchars, hp⟩ := nameBefore?_eq_some_iff.mp hname
  obtain ⟨hinside, hbody⟩ := Mark.seek_char_eq_some_iff.mp hclose
  refine ⟨p, print ⟨name, body⟩, ?_, ⟨rfl, hne, hchars, hbody⟩, hp, ?_⟩
  · rw [Mark.eq_of_seek_word hopen, hinside]
    simp [print]
  · intro b v after c hb hv
    exact hv.length_le_of_named hb hopen hp

theorem not_isNameChar_last_append {p q : Text} (hp : ∀ c ∈ p.getLast?, ¬ isNameChar c)
    (hq : ∀ c ∈ q.getLast?, ¬ isNameChar c) : ∀ c ∈ (p ++ q).getLast?, ¬ isNameChar c := by
  intro c hc
  rw [List.getLast?_append] at hc
  cases hlast : q.getLast? with
  | none => exact hp c (by simpa [hlast] using hc)
  | some d => exact hq c (by simpa [hlast] using hc)

theorem lazy_leftmost_from (p u : Text) (hp : ∀ c ∈ p.getLast?, ¬ isNameChar c) :
    ∃ spans : List (Span Block), Leftmost Shape (p ++ u) p.length spans ∧
      (∀ s ∈ spans, ∀ c ∈ ((p ++ u).take s.start).getLast?, ¬ isNameChar c) ∧
      lazy u = spans.map Span.value := by
  fun_induction lazy u generalizing p with
  | case1 u hopen =>
    refine ⟨[], Leftmost.nil_of_none ?_, by simp, rfl⟩
    intro b w after blk hu hw
    apply Mark.seek_char_eq_none_iff.mp hopen
    simp [hu, hw.1, print]
  | case2 u before inside hopen hname ih =>
    have hu : u = before ++ ['{'] ++ inside := Mark.eq_of_seek_word hopen
    obtain ⟨spans, hspans, hmax, hlazy⟩ := ih (p ++ before ++ ['{']) (by
      simp [not_isNameChar_open])
    have ht : p ++ before ++ ['{'] ++ inside = p ++ u := by simp [hu]
    rw [ht] at hspans hmax
    refine ⟨spans, hspans.skip (by simp) ?_, hmax, hlazy⟩
    intro r hr hstart
    obtain ⟨b, w, after, hb, hrb, hw⟩ := hr.of_append hstart
    have hlt := hw.behind_unnamed hb hopen hname
    simp only [List.length_append, List.length_singleton]
    omega
  | case3 u before inside hopen name hname hclose =>
    refine ⟨[], Leftmost.nil_of_none ?_, by simp, rfl⟩
    intro b w after blk hu hw
    exact Mark.seek_char_eq_none_iff.mp hclose (hw.close_mem hu hopen)
  | case4 u before inside hopen name hname body rest hclose ih =>
    obtain ⟨q, w, rfl, hw, hq, hfirst⟩ := exists_first_named hopen hname hclose
    have hend : ∀ c ∈ (p ++ q ++ w).getLast?, ¬ isNameChar c := by
      simp [List.getLast?_append, hw.getLast?_eq, not_isNameChar_close]
    obtain ⟨spans, hspans, hmax, hlazy⟩ := ih (p ++ q ++ w) hend
    have ht : p ++ q ++ w ++ rest = p ++ (q ++ w ++ rest) := by simp
    rw [ht] at hspans hmax
    refine ⟨⟨(p ++ q).length, (p ++ q ++ w).length, ⟨name, body⟩⟩ :: spans,
      hspans.cons_of_first hw hfirst, ?_, by rw [List.map_cons, hlazy]⟩
    intro s hs
    rcases List.mem_cons.mp hs with rfl | hs
    · have htake : (p ++ (q ++ w ++ rest)).take (p ++ q).length = p ++ q := by
        rw [List.append_assoc q, ← List.append_assoc p, List.take_left]
      show ∀ c ∈ ((p ++ (q ++ w ++ rest)).take (p ++ q).length).getLast?, ¬ isNameChar c
      rw [htake]
      exact not_isNameChar_last_append hp hq
    · exact hmax s hs

/-- The lazy blocks are those of the leftmost factors without overlap, each named by a run of name
characters that is as long as it can be. -/
theorem lazy_spans (t : Text) :
    ∃ spans : List (Span Block), Leftmost Shape t 0 spans ∧
      (∀ s ∈ spans, ∀ c ∈ (t.take s.start).getLast?, ¬ isNameChar c) ∧
      lazy t = spans.map Span.value :=
  lazy_leftmost_from [] t (by simp)

/-- A name gives back only its last space, and a nested brace does not end the body. -/
example : lazy "\x7b A  \x7b x \x7b y \x7d z \x7d".toList =
    [⟨" A ".toList, " x \x7b y ".toList⟩] := by cbv

end DatalogDoc.Block
