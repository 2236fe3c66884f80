import DatalogDoc.Markdown
import DatalogDoc.Proofs.Reprinting
import Mathlib

/-!
# What a document tells

The parts of a document are told apart by how its lines start, so that a document belongs to one
list of names and declarations only.
-/

namespace DatalogDoc

/-- No line of the text starts with the word. -/
def LinesAvoid (w t : Text) : Prop := ∀ l ∈ t.splitOn '\n', ¬ w <+: l

instance (w t : Text) : Decidable (LinesAvoid w t) := inferInstanceAs (Decidable (∀ _ ∈ _, _))

theorem splitOn_append {w : Text} (hw : '\n' ∉ w) (t : Text) :
    ∃ l ls, (w ++ t).splitOn '\n' = (w ++ l) :: ls := by
  induction w with
  | nil => exact List.exists_cons_of_ne_nil (List.splitOn_ne_nil '\n' t)
  | cons c w ih =>
    simp only [List.mem_cons, not_or] at hw
    obtain ⟨l, ls, h⟩ := ih hw.2
    have hc : (c == '\n') = false := beq_false_of_ne (Ne.symm hw.1)
    refine ⟨l, ls, ?_⟩
    rw [List.cons_append, List.splitOn_cons_eq_if_modifyHead, hc, h]
    rfl

theorem LinesAvoid.not_factor {w t : Text} (h : LinesAvoid w t) (hw : '\n' ∉ w) :
    ¬ '\n' :: w <:+: t := by
  rintro ⟨u, v, rfl⟩
  obtain ⟨l, ls, hsplit⟩ := splitOn_append hw v
  have hline : w ++ l ∈ (u ++ '\n' :: (w ++ v)).splitOn '\n' := by
    simp [List.splitOn_append_cons_self, hsplit]
  exact h (w ++ l) (by simpa using hline) (List.prefix_append w l)

theorem prefix_of_prefix_append {w t u : Text} (hw : '\n' ∉ w) (h : w <+: t ++ '\n' :: u) :
    w <+: t := by
  obtain ⟨v, hv⟩ := h
  rcases List.append_eq_append_iff.mp hv with ⟨q, ht, -⟩ | ⟨q, hq, hu⟩
  · exact ⟨q, ht.symm⟩
  · cases q with
    | nil => simp [hq]
    | cons c q =>
      obtain rfl := (List.cons.inj hu).1
      simp [hq] at hw

def Opens (ws : List Text) (t : Text) : Prop := t = [] ∨ ∃ w ∈ ws, w <+: t

theorem append_newline_inj (ws : List Text) (hws : ∀ w ∈ ws, '\n' ∉ w) {t u r s : Text}
    (ht : ∀ w ∈ ws, ¬ '\n' :: w <:+: t) (hu : ∀ w ∈ ws, ¬ '\n' :: w <:+: u) (hr : Opens ws r)
    (hs : Opens ws s) (h : t ++ '\n' :: r = u ++ '\n' :: s) : t = u ∧ r = s := by
  -- Were one text longer, one of its lines would start with what opens the rest of the other.
  have shorter : ∀ {t u r s q : Text}, (∀ w ∈ ws, ¬ '\n' :: w <:+: u) → Opens ws r →
      u = t ++ q → '\n' :: r = q ++ '\n' :: s → q = [] := by
    intro t u r s q hu hr hq hrest
    cases q with
    | nil => rfl
    | cons c q =>
      obtain ⟨rfl, rfl⟩ := List.cons.inj hrest
      exfalso
      rcases hr with hnil | ⟨w, hw, hprefix⟩
      · simp at hnil
      · obtain ⟨v, rfl⟩ := prefix_of_prefix_append (hws w hw) hprefix
        exact hu w hw ⟨t, v, by simp [hq]⟩
  rcases List.append_eq_append_iff.mp h with ⟨q, hq, hrest⟩ | ⟨q, hq, hrest⟩
  · obtain rfl := shorter hu hr hq hrest
    simpa using And.intro hq.symm hrest
  · obtain rfl := shorter ht hs hq hrest
    simpa using And.intro hq hrest.symm

theorem name_append_inj {t u r s : Text} (ht : '\n' ∉ t) (hu : '\n' ∉ u)
    (h : t ++ '\n' :: r = u ++ '\n' :: s) : t = u ∧ r = s := by
  have hfactor {v : Text} (hv : '\n' ∉ v) : ∀ w ∈ [([] : Text)], ¬ '\n' :: w <:+: v := by
    intro w _ hw
    exact hv (hw.subset (by simp))
  have hopens (v : Text) : Opens [[]] v := .inr ⟨[], by simp, List.nil_prefix⟩
  exact append_newline_inj [[]] (by simp) (hfactor ht) (hfactor hu) (hopens r) (hopens s) h

theorem infix_of_infix_append_newline {w t : Text} (hw : '\n' ∉ w) (hne : w ≠ [])
    (h : '\n' :: w <:+: t ++ ['\n']) : '\n' :: w <:+: t := by
  obtain ⟨u, v, h⟩ := h
  rcases List.eq_nil_or_concat v with rfl | ⟨v, c, rfl⟩
  · exfalso
    have hlast := congrArg List.getLast? h
    rw [List.append_nil, List.getLast?_append_cons, List.getLast?_cons_of_ne_nil hne] at hlast
    simp only [List.getLast?_concat] at hlast
    exact hw (List.mem_of_getLast? hlast)
  · rw [List.concat_eq_append, ← List.append_assoc] at h
    exact ⟨u, v, List.append_inj_left' h rfl⟩

/-- The declaration can be told from what stands around it in a document: no line of its signature
closes the fence, and none of its doc is a heading. -/
structure Declaration.Legible (d : Declaration) : Prop where
  signature : LinesAvoid "```".toList d.signature
  doc : LinesAvoid "## ".toList d.doc ∧ LinesAvoid "### ".toList d.doc

instance (d : Declaration) : Decidable d.Legible :=
  decidable_of_iff (_ ∧ _) ⟨fun h => ⟨h.1, h.2⟩, fun h => ⟨h.signature, h.doc⟩⟩

structure Section.Legible (x : Section) : Prop where
  name : '\n' ∉ x.name
  declarations : ∀ d ∈ x.declarations, d.Legible

instance (x : Section) : Decidable x.Legible :=
  decidable_of_iff (_ ∧ _) ⟨fun h => ⟨h.1, h.2⟩, fun h => ⟨h.name, h.declarations⟩⟩

def Reference.Legible (r : Reference) : Prop := ∀ x ∈ r.sections, x.Legible

instance (r : Reference) : Decidable r.Legible := inferInstanceAs (Decidable (∀ _ ∈ _, _))

namespace Layout

variable {layout : Layout}

def headings : List Text := ["## ".toList, "### ".toList]

theorem flatten_entry_append (d : Declaration) (rest : Text) :
    (layout.entry d).flatten ++ rest = "### ".toList ++ ((d.name ++ ['\n']) ++ '\n' ::
      ("```".toList ++ (layout.language ++ '\n' :: (d.signature ++ '\n' ::
        ("```".toList ++ ("\n\n".toList ++ (d.doc ++ '\n' :: rest))))))) := by
  simp [entry, line]

theorem name_not_factor {d : Declaration} (h : d.Legible) :
    ¬ '\n' :: "```".toList <:+: d.name ++ ['\n'] := by
  intro hfactor
  have hname := infix_of_infix_append_newline (by decide) (by decide) hfactor
  have hprefix : d.name <+: d.signature := List.takeWhile_prefix _
  exact h.signature.not_factor (by decide) (hname.trans hprefix.isInfix)

theorem doc_not_factor {d : Declaration} (h : d.Legible) :
    ∀ w ∈ headings, ¬ '\n' :: w <:+: d.doc := by
  intro w hw
  simp only [headings, List.mem_cons, List.not_mem_nil, or_false] at hw
  rcases hw with rfl | rfl
  · exact h.doc.1.not_factor (by decide)
  · exact h.doc.2.not_factor (by decide)

theorem entry_append_inj {d e : Declaration} (hd : d.Legible) (he : e.Legible) {r s : Text}
    (hr : Opens headings r) (hs : Opens headings s)
    (h : (layout.entry d).flatten ++ r = (layout.entry e).flatten ++ s) : d = e ∧ r = s := by
  have hopens (t : Text) : Opens ["```".toList] ("```".toList ++ t) :=
    .inr ⟨_, by simp, List.prefix_append _ t⟩
  have hfence : ∀ w ∈ ["```".toList], '\n' ∉ w := by decide
  rw [flatten_entry_append, flatten_entry_append] at h
  obtain ⟨-, h⟩ := append_newline_inj ["```".toList] hfence
    (List.forall_mem_singleton.mpr (name_not_factor hd))
    (List.forall_mem_singleton.mpr (name_not_factor he)) (hopens _) (hopens _)
    (List.append_cancel_left h)
  have h := (List.cons.inj (List.append_cancel_left (List.append_cancel_left h))).2
  obtain ⟨hsignature, h⟩ := append_newline_inj ["```".toList] hfence
    (List.forall_mem_singleton.mpr (hd.signature.not_factor (by decide)))
    (List.forall_mem_singleton.mpr (he.signature.not_factor (by decide)))
    (hopens _) (hopens _) h
  obtain ⟨hdoc, hrest⟩ := append_newline_inj headings (by decide) (doc_not_factor hd)
    (doc_not_factor he) hr hs (List.append_cancel_left (List.append_cancel_left h))
  obtain ⟨doc, signature⟩ := d
  obtain ⟨doc', signature'⟩ := e
  simp only at hsignature hdoc
  exact ⟨by rw [hsignature, hdoc], hrest⟩

theorem opens_entries (ds : List Declaration) {rest : Text} (h : Opens ["## ".toList] rest) :
    Opens headings ((ds.flatMap layout.entry).flatten ++ rest) := by
  cases ds with
  | nil =>
    rcases h with rfl | ⟨w, hw, hprefix⟩
    · exact .inl rfl
    · exact .inr ⟨w, List.mem_of_mem_head? (by simpa [headings, eq_comm] using hw), hprefix⟩
  | cons d ds =>
    refine .inr ⟨"### ".toList, by simp [headings], ?_⟩
    rw [List.flatMap_cons, List.flatten_append, List.append_assoc, flatten_entry_append]
    exact List.prefix_append _ _

theorem not_opens_entries (d : Declaration) (ds : List Declaration) (rest : Text) :
    ¬ Opens ["## ".toList] (((d :: ds).flatMap layout.entry).flatten ++ rest) := by
  rw [List.flatMap_cons, List.flatten_append, List.append_assoc, flatten_entry_append]
  simp [Opens]

theorem entries_append_inj {ds es : List Declaration} (hds : ∀ d ∈ ds, d.Legible)
    (hes : ∀ e ∈ es, e.Legible) {r s : Text} (hr : Opens ["## ".toList] r)
    (hs : Opens ["## ".toList] s)
    (h : (ds.flatMap layout.entry).flatten ++ r = (es.flatMap layout.entry).flatten ++ s) :
    ds = es ∧ r = s := by
  induction ds generalizing es with
  | nil =>
    cases es with
    | nil => exact ⟨rfl, h⟩
    | cons e es =>
      rw [show r = _ from h] at hr
      exact absurd hr (not_opens_entries e es s)
  | cons d ds ih =>
    cases es with
    | nil =>
      rw [show s = _ from h.symm] at hs
      exact absurd hs (not_opens_entries d ds r)
    | cons e es =>
      rw [List.flatMap_cons, List.flatMap_cons, List.flatten_append, List.flatten_append,
        List.append_assoc, List.append_assoc] at h
      obtain ⟨hde, hrest⟩ := entry_append_inj (hds d (by simp)) (hes e (by simp))
        (opens_entries ds hr) (opens_entries es hs) h
      obtain ⟨hdes, hrs⟩ := ih (fun d hd => hds d (by simp [hd]))
        (fun e he => hes e (by simp [he])) hrest
      exact ⟨by rw [hde, hdes], hrs⟩

theorem flatten_chapter_append (x : Section) (rest : Text) :
    (layout.chapter x).flatten ++ rest = "## ".toList ++ (x.name ++ '\n' ::
      ((x.declarations.flatMap layout.entry).flatten ++ rest)) := by
  simp [chapter, line]

theorem opens_chapters (xs : List Section) :
    Opens ["## ".toList] (xs.flatMap layout.chapter).flatten := by
  cases xs with
  | nil => exact .inl rfl
  | cons x xs =>
    refine .inr ⟨"## ".toList, by simp, ?_⟩
    rw [List.flatMap_cons, List.flatten_append, flatten_chapter_append]
    exact List.prefix_append _ _

theorem chapters_inj {xs ys : List Section} (hxs : ∀ x ∈ xs, x.Legible)
    (hys : ∀ y ∈ ys, y.Legible)
    (h : (xs.flatMap layout.chapter).flatten = (ys.flatMap layout.chapter).flatten) :
    xs.map (fun x => (x.name, x.declarations)) = ys.map fun y => (y.name, y.declarations) := by
  induction xs generalizing ys with
  | nil =>
    cases ys with
    | nil => rfl
    | cons y ys => simp [chapter, line] at h
  | cons x xs ih =>
    cases ys with
    | nil => simp [chapter, line] at h
    | cons y ys =>
      rw [List.flatMap_cons, List.flatMap_cons, List.flatten_append, List.flatten_append,
        flatten_chapter_append, flatten_chapter_append] at h
      have hx := hxs x (by simp)
      have hy := hys y (by simp)
      obtain ⟨hname, hbody⟩ := name_append_inj hx.name hy.name (List.append_cancel_left h)
      obtain ⟨hdeclarations, hrest⟩ := entries_append_inj hx.declarations hy.declarations
        (opens_chapters xs) (opens_chapters ys) hbody
      rw [List.map_cons, List.map_cons, hname, hdeclarations,
        ih (fun x hx => hxs x (by simp [hx])) (fun y hy => hys y (by simp [hy])) hrest]

end Layout

theorem Reference.newline_not_mem_name {mode : Mode} {t : Text} {r : Reference}
    (h : Reference.extract mode t = .ok r) {x : Section} (hx : x ∈ r.sections) :
    '\n' ∉ x.name := by
  obtain ⟨bs, hbs, hr⟩ := Reference.extract_eq_ok_iff.mp h
  rw [hr] at hx
  obtain ⟨b, hb, rfl⟩ := List.mem_map.mp hx
  have hchars : ∀ c ∈ b.name, Block.isNameChar c := by
    cases mode with
    | lazy =>
      obtain rfl := Except.ok.inj hbs
      exact (Block.proper_of_mem_lazy hb).2.1
    | balanced =>
      obtain ⟨hfree, houtline⟩ := Block.balanced_eq_ok_iff.mp hbs
      exact (houtline.whole (Lexeme.cut_lexemes t) hfree b hb).name_chars
  intro hmem
  exact absurd (hchars '\n' hmem) (by decide)

namespace Layout

/-- Names that were read from a text stay on one line; and where they do, no line of a signature
starts with a fence and none of a doc with a heading, two references with the same document have the
same sections with the same declarations, whatever the layout. -/
theorem document_determines :
    (∀ mode t r, Reference.extract mode t = .ok r → ∀ x ∈ r.sections, '\n' ∉ x.name) ∧
      ∀ (layout : Layout) (r s : Reference), r.Legible → s.Legible →
        layout.document r = layout.document s →
        r.sections.map (fun x => (x.name, x.declarations)) =
          s.sections.map fun x => (x.name, x.declarations) := by
  refine ⟨fun mode t r h x hx => Reference.newline_not_mem_name h hx, ?_⟩
  intro layout r s hr hs h
  simp only [document, pieces, List.flatten_append] at h
  exact chapters_inj hr hs (List.append_cancel_left h)

def misleadingSample : Layout := ⟨"T\n## A".toList, "e\n```".toList⟩

/-- A name on two lines, an empty doc, one that ends in a newline, an empty signature and an empty
section. -/
def layeredSample (body : Text) : Reference :=
  ⟨[⟨⟨"A".toList, body⟩, [⟨[], "f\ng(x)".toList⟩, ⟨"#\n".toList, []⟩]⟩, ⟨⟨[], []⟩, []⟩]⟩

theorem layeredSample_document_determines :
    let r := layeredSample "x".toList
    let s := layeredSample []
    r ≠ s ∧ r.Legible ∧ s.Legible ∧
      misleadingSample.document r = misleadingSample.document s ∧
      r.sections.map (fun x => (x.name, x.declarations)) =
        s.sections.map fun x => (x.name, x.declarations) :=
  ⟨by decide, by decide, by decide, by decide,
    document_determines.2 misleadingSample _ _ (by decide) (by decide) (by decide)⟩

end Layout

end DatalogDoc
