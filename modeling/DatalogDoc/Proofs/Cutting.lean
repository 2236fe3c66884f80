import DatalogDoc.Lexeme
import DatalogDoc.Proofs.Seek

/-!
# The cut of a text into lexemes

The rules of comments, strings and code characters, each said of one lexeme and the text behind it.
Every text has one cut that follows them, and it is the one that is computed.
-/

namespace DatalogDoc

/-- Text between quotes: a backslash takes any character with it, and neither a quote nor a newline
stands alone. -/
inductive Escaped : Text → Prop
  | nil : Escaped []
  | plain {c : Char} {t : Text} :
      c ≠ '"' → c ≠ '\n' → c ≠ '\\' → Escaped t → Escaped (c :: t)
  | pair {c : Char} {t : Text} : Escaped t → Escaped ('\\' :: c :: t)

namespace Lexeme

theorem flatMap_text_lexemes (t : Text) : (lexemes t).flatMap text = t := by
  fun_induction lexemes t with
  | case1 => rfl
  | case2 t interior rest h ih =>
    rw [List.flatMap_cons, ih, Mark.eq_of_seek_word h]
    simp [text]
  | case3 => simp [text]
  | case4 t interior rest h ih =>
    rw [List.flatMap_cons, ih, Mark.eq_of_seek_word h]
    simp [text]
  | case5 => simp [text]
  | case6 t interior rest h ih =>
    have ht := readString_text t
    simp only [h] at ht
    rw [List.flatMap_cons, ih, ← ht]
    simp [text]
  | case7 t interior rest h ih =>
    have ht := readString_text t
    simp only [h] at ht
    rw [List.flatMap_cons, ih, ← ht]
    simp [text]
  | case8 c t _ _ _ ih => simp [ih, text]

/-- The rule that lets a lexeme stand at the front of a text that goes on with `rest`. -/
def Fits : Lexeme → Text → Prop
  | blockComment u, _ => ¬ ['*', '/'] <:+: u
  | lineComment u true, _ => '\n' ∉ u
  | lineComment u false, rest => '\n' ∉ u ∧ rest = []
  | quoted u, _ => Escaped u
  | code c, rest => c ≠ '"' ∧ (c = '/' → rest.head? ≠ some '*' ∧ rest.head? ≠ some '/')
  | openComment u, rest => ¬ ['*', '/'] <:+: u ∧ rest = []
  | openString u, rest =>
    ∃ v, Escaped v ∧ (u = v ++ ['\n'] ∨ rest = [] ∧ (u = v ∨ u = v ++ ['\\']))

/-- The text falls into these lexemes, from left to right. -/
inductive Cut : Text → List Lexeme → Prop
  | nil : Cut [] []
  | cons {l : Lexeme} {rest : Text} {ls : List Lexeme} :
      l.Fits rest → Cut rest ls → Cut (l.text ++ rest) (l :: ls)

theorem commentEnd_seek_eq_some_iff {t u rest : Text} :
    commentEnd.seek t = some (u, rest) ↔ t = u ++ '*' :: '/' :: rest ∧ ¬ ['*', '/'] <:+: u := by
  constructor
  · intro h
    exact ⟨by simpa using Mark.eq_of_seek_word h, Mark.not_infix_of_seek_word (by simp) h⟩
  · intro h
    obtain ⟨rfl, hu⟩ := h
    apply Mark.seek_word_of_not_prefix
    intro p c q hp
    rw [List.cons_prefix_cons]
    intro hprefix
    obtain ⟨rfl, hq⟩ := hprefix
    -- A closer that began inside the interior would have to end there.
    cases q with
    | nil => simp at hq
    | cons d q =>
      rw [List.cons_append, List.cons_prefix_cons] at hq
      exact hu ⟨p, q, by rw [hp, ← hq.1, List.append_assoc]; rfl⟩

theorem readString_append {u : Text} (hu : Escaped u) (t : Text) :
    readString (u ++ t) = (u ++ (readString t).1, (readString t).2) := by
  induction hu with
  | nil => rfl
  | plain hq hn hb _ ih => simp [readString, hb, ih]
  | pair _ ih => simp [readString, ih]

theorem readString_fits (t : Text) :
    if (readString t).2.1 then Escaped (readString t).1
    else (openString (readString t).1).Fits (readString t).2.2 := by
  fun_induction readString t with
  | case1 => exact ⟨[], .nil, .inr ⟨rfl, .inl rfl⟩⟩
  | case2 t => exact .nil
  | case3 t => exact ⟨[], .nil, .inl rfl⟩
  | case4 c t interior closed rest hread ih =>
    simp only [hread] at ih
    cases closed with
    | true => exact .pair ih
    | false =>
      obtain ⟨v, hv, h⟩ := ih
      exact ⟨'\\' :: c :: v, .pair hv, by simpa using h⟩
  | case5 c t hq hn hb interior closed rest hread ih =>
    by_cases hc : c = '\\'
    · -- A backslash with nothing behind it is the last character of the text.
      cases t with
      | cons d t => exact (hb d t hc rfl).elim
      | nil =>
        cases hread
        exact ⟨[], .nil, .inr ⟨rfl, .inr (by rw [hc]; rfl)⟩⟩
    · simp only [hread] at ih
      cases closed with
      | true => exact .plain hq hn hc ih
      | false =>
        obtain ⟨v, hv, h⟩ := ih
        exact ⟨c :: v, .plain hq hn hc hv, by simpa using h⟩

theorem lexemes_slash_star (t : Text) :
    lexemes ('/' :: '*' :: t) =
      match commentEnd.seek t with
      | some (u, rest) => blockComment u :: lexemes rest
      | none => [openComment t] := by
  rw [lexemes]
  split <;> simp_all

theorem lexemes_slash_slash (t : Text) :
    lexemes ('/' :: '/' :: t) =
      match lineEnd.seek t with
      | some (u, rest) => lineComment u true :: lexemes rest
      | none => [lineComment t false] := by
  rw [lexemes]
  split <;> simp_all

theorem lexemes_quote (t : Text) :
    lexemes ('"' :: t) =
      (if (readString t).2.1 then quoted (readString t).1 else openString (readString t).1)
        :: lexemes (readString t).2.2 := by
  rw [lexemes]
  split <;> simp_all

theorem lexemes_code {c : Char} {t : Text} (h : (code c).Fits t) :
    lexemes (c :: t) = code c :: lexemes t := by
  obtain ⟨hq, hs⟩ := h
  apply lexemes.eq_5
  · rintro u rfl rfl
    exact (hs rfl).1 rfl
  · rintro u rfl rfl
    exact (hs rfl).2 rfl
  · exact hq

theorem lexemes_text_append {l : Lexeme} {rest : Text} (h : l.Fits rest) :
    lexemes (l.text ++ rest) = l :: lexemes rest := by
  cases l with
  | blockComment u =>
    have hseek : commentEnd.seek (u ++ '*' :: '/' :: rest) = some (u, rest) :=
      commentEnd_seek_eq_some_iff.mpr ⟨rfl, h⟩
    simp [text, lexemes_slash_star, hseek]
  | lineComment u ended =>
    cases ended with
    | true =>
      have hseek : lineEnd.seek (u ++ '\n' :: rest) = some (u, rest) :=
        Mark.seek_char_eq_some_iff.mpr ⟨rfl, h⟩
      simp [text, lexemes_slash_slash, hseek]
    | false =>
      obtain ⟨hu, rfl⟩ := h
      have hseek : lineEnd.seek u = none := Mark.seek_char_eq_none_iff.mpr hu
      simp [text, lexemes_slash_slash, hseek, lexemes]
  | quoted u =>
    simp [text, lexemes_quote, readString_append h, readString]
  | code c => exact lexemes_code h
  | openComment u =>
    obtain ⟨hu, rfl⟩ := h
    have hseek : commentEnd.seek u = none := Mark.seek_word_eq_none_iff.mpr hu
    simp [text, lexemes_slash_star, hseek, lexemes]
  | openString u =>
    obtain ⟨v, hv, rfl | ⟨rfl, rfl | rfl⟩⟩ := h
    · simp [text, lexemes_quote, readString_append hv, readString]
    · have hread : readString u = (u, false, []) := by
        simpa [readString] using readString_append hv []
      simp [text, lexemes_quote, hread]
    · simp [text, lexemes_quote, readString_append hv, readString]

theorem cut_lexemes (t : Text) : Cut t (lexemes t) := by
  fun_induction lexemes t with
  | case1 => exact .nil
  | case2 t u rest hseek ih =>
    obtain ⟨rfl, hu⟩ := commentEnd_seek_eq_some_iff.mp hseek
    simpa [text] using Cut.cons (l := blockComment u) hu ih
  | case3 t hseek =>
    have hu := Mark.seek_word_eq_none_iff.mp hseek
    simpa [text] using Cut.cons (l := openComment t) ⟨hu, rfl⟩ .nil
  | case4 t u rest hseek ih =>
    obtain ⟨rfl, hu⟩ := Mark.seek_char_eq_some_iff.mp hseek
    simpa [text] using Cut.cons (l := lineComment u true) hu ih
  | case5 t hseek =>
    have hu := Mark.seek_char_eq_none_iff.mp hseek
    simpa [text] using Cut.cons (l := lineComment t false) ⟨hu, rfl⟩ .nil
  | case6 t u rest hread ih =>
    have hu : Escaped u := by simpa [hread] using readString_fits t
    have ht : u ++ '"' :: rest = t := by simpa [hread] using readString_text t
    subst ht
    simpa [text] using Cut.cons (l := quoted u) hu ih
  | case7 t u rest hread ih =>
    have hu : (openString u).Fits rest := by simpa [hread] using readString_fits t
    have ht : u ++ rest = t := by simpa [hread] using readString_text t
    subst ht
    exact Cut.cons hu ih
  | case8 c t hstar hslash hq ih =>
    apply Cut.cons (l := code c) ⟨hq, ?_⟩ ih
    intro hc
    cases t with
    | nil => simp
    | cons d t =>
      refine ⟨?_, ?_⟩
      · rintro ⟨⟩
        exact hstar t hc rfl
      · rintro ⟨⟩
        exact hslash t hc rfl

theorem cut_iff {t : Text} {ls : List Lexeme} : Cut t ls ↔ ls = lexemes t := by
  constructor
  · intro h
    induction h with
    | nil => simp [lexemes]
    | cons hl _ ih => rw [lexemes_text_append hl, ih]
  · intro h
    rw [h]
    exact cut_lexemes t

@[simp] theorem flatMap_text_map_code (t : Text) : (t.map code).flatMap text = t := by
  simp [List.flatMap_map, text]

theorem Cut.flatMap_text {t : Text} {ls : List Lexeme} (h : Cut t ls) : ls.flatMap text = t := by
  rw [cut_iff.mp h, flatMap_text_lexemes]

theorem Cut.of_cons {t : Text} {l : Lexeme} {ls : List Lexeme} (h : Cut t (l :: ls)) :
    l.Fits (ls.flatMap text) ∧ Cut (ls.flatMap text) ls := by
  cases h with
  | cons hl hls =>
    rw [hls.flatMap_text]
    exact ⟨hl, hls⟩

theorem Cut.of_append {t : Text} {ls ks : List Lexeme} (h : Cut t (ls ++ ks)) :
    Cut (ks.flatMap text) ks := by
  induction ls generalizing t with
  | nil => rwa [List.nil_append, ← h.flatMap_text] at h
  | cons l ls ih => exact ih h.of_cons.2

theorem cut_nil_iff {ls : List Lexeme} : Cut [] ls ↔ ls = [] := by
  rw [cut_iff, lexemes]

theorem cut_code {t rest : Text} {ls : List Lexeme} (ht : ∀ c ∈ t, c ≠ '"' ∧ c ≠ '/')
    (h : Cut rest ls) : Cut (t ++ rest) (t.map code ++ ls) := by
  induction t with
  | nil => exact h
  | cons c t ih =>
    obtain ⟨hquote, hslash⟩ := ht c (by simp)
    apply Cut.cons (l := code c) ⟨hquote, fun h => (hslash h).elim⟩
    exact ih fun d hd => ht d (by simp [hd])

end Lexeme

end DatalogDoc
