import DatalogDoc.Proofs.Truncation

/-!
# Whose comment a doc is

A doc begins where a comment does. It is the text of that comment if a declaration follows it, and
goes on over the end of the comment if none does.
-/

namespace DatalogDoc.Declaration

def closer : Text := "*/".toList

def Declared (t : Text) : Prop := ∃ x rest, t = "\n\n".toList ++ x :: "decl ".toList ++ rest

theorem keyword_closer {t : Text} (h : Declared t) : ∃ rest, keyword (closer ++ t) = some rest := by
  obtain ⟨x, rest, rfl⟩ := h
  exact ⟨rest, keyword_eq_some_iff.mpr ⟨x, rfl⟩⟩

theorem exists_closer_of_keyword {t rest : Text} (h : keyword t = some rest) :
    ∃ after, t = closer ++ after ∧ Declared after := by
  obtain ⟨x, rfl⟩ := keyword_eq_some_iff.mp h
  exact ⟨"\n\n".toList ++ x :: "decl ".toList ++ rest, rfl, x, rest, rfl⟩

theorem closer_append_eq {q after tail : Text} (h : closer ++ after = q ++ (closer ++ tail)) :
    q = [] ∨ closer <+: q := by
  match q with
  | [] => exact .inl rfl
  | [c] => simp [closer] at h
  | c :: d :: q =>
    have h : closer ++ after = [c, d] ++ (q ++ (closer ++ tail)) := h
    have hfront : closer = [c, d] := List.append_inj_left h rfl
    exact .inr ⟨q, by rw [hfront]; rfl⟩

theorem exists_own_of_keyword {u doc rest : Text} (h : keyword.seek u = some (doc, rest)) :
    ∃ own after, u = own ++ closer ++ after ∧ ¬ closer <:+: own ∧
      (Declared after → doc = own) ∧ (¬ Declared after → own ++ closer <+: doc) := by
  obtain ⟨v, hv, hkey⟩ := Mark.exists_of_seek h
  obtain ⟨tail, rfl, htail⟩ := exists_closer_of_keyword hkey
  have hcloser : Mark.word closer (closer ++ tail) = some tail := Mark.word_eq_some_iff.mpr rfl
  cases hseek : (Mark.word closer).seek u with
  | none => simp [Mark.seek_eq_none_iff.mp hseek doc _ hv] at hcloser
  | some found =>
    obtain ⟨own, after⟩ := found
    have hu := Mark.eq_of_seek_word hseek
    have hle := Mark.length_le_of_seek hseek hv hcloser
    rw [List.append_assoc] at hu
    obtain ⟨q, rfl, hq⟩ := append_split (hu.symm.trans hv) hle
    refine ⟨own, after, by rw [hu, List.append_assoc],
      Mark.not_infix_of_seek_word (by decide) hseek, ?_, ?_⟩
    · -- The keyword stands at the first closer, so a longer doc is not the shortest.
      intro hdeclared
      obtain ⟨r, hr⟩ := keyword_closer hdeclared
      have hshort := Mark.length_le_of_seek h hu hr
      rw [List.length_append] at hshort
      rw [List.eq_nil_of_length_eq_zero (by omega : q.length = 0), List.append_nil]
    · intro hnot
      rcases closer_append_eq hq with rfl | hprefix
      · rw [List.append_cancel_left hq] at hnot
        exact absurd htail hnot
      · exact (List.prefix_append_right_inj own).mpr hprefix

theorem exists_of_mem_all {t : Text} {d : Declaration} (h : d ∈ all t) :
    ∃ before u v rest, t = before ++ "/**\n".toList ++ u ∧ keyword.seek u = some (d.doc, v) ∧
      v = d.signature ++ rest := by
  fun_induction all t with
  | case1 => simp at h
  | case2 t c rest hfirst ih =>
    obtain ⟨before, u, doc, v, head, hopen, hkey, hsig, rfl⟩ := first?_eq_some_iff.mp hfirst
    rcases List.mem_cons.mp h with rfl | h
    · refine ⟨before, u, v, rest, Mark.eq_of_seek_word hopen, hkey, ?_⟩
      exact Mark.eq_of_seek_word hsig
    · obtain ⟨front, w, ht, -⟩ := first?_eq_some hfirst
      obtain ⟨before', u', v', rest', hrest, hread⟩ := ih h
      exact ⟨front ++ w ++ before', u', v', rest', by rw [ht, hrest]; simp, hread⟩

/-- A declaration is documented by its own comment only where the comment at which its doc begins is
followed by a declaration. Else that comment and all behind it, as far as the declaration's own, is
in the doc. -/
theorem doc_own_iff {t : Text} {d : Declaration} (h : d ∈ all t) :
    ∃ before own after, t = before ++ "/**\n".toList ++ own ++ closer ++ after ∧
      ¬ closer <:+: own ∧
      (∃ x, before ++ "/**\n".toList ++ d.doc ++ closer ++ "\n\n".toList ++ x :: "decl ".toList ++
        d.signature <+: t) ∧
      (¬ closer <:+: d.doc ↔ Declared after) ∧
      (Declared after → d.doc = own) ∧ (¬ Declared after → own ++ closer <+: d.doc) := by
  obtain ⟨before, u, v, rest, ht, hkey, hv⟩ := exists_of_mem_all h
  obtain ⟨own, after, hu, hown, hdeclared, hnot⟩ := exists_own_of_keyword hkey
  refine ⟨before, own, after, by rw [ht, hu]; simp, hown, ?_, ?_, hdeclared, hnot⟩
  · obtain ⟨w, hw, hw'⟩ := Mark.exists_of_seek hkey
    obtain ⟨x, rfl⟩ := keyword_eq_some_iff.mp hw'
    exact ⟨x, rest, by rw [ht, hw, hv]; simp [closer]⟩
  · constructor
    · intro hfree
      by_contra hafter
      exact hfree ((List.suffix_append own closer).isInfix.trans (hnot hafter).isInfix)
    · intro hafter
      rwa [hdeclared hafter]

/-- A comment on a type stands before the comment of a declaration. -/
def typedSample : Text :=
  "/**\n A name.\n */\n.type Id <: symbol\n/**\n Every node.\n */\n\n.decl Node(id: Id)\n".toList

def typedSampleDoc : Text :=
  " A name.\n */\n.type Id <: symbol\n/**\n Every node.\n ".toList

def typedSampleDeclaration : Declaration := ⟨typedSampleDoc, "Node(id: Id)".toList⟩

theorem mem_all_typedSample : typedSampleDeclaration ∈ all typedSample := by
  have hall : all typedSample = [typedSampleDeclaration] := by cbv
  simp [hall]

theorem closer_infix_typedSampleDoc : closer <:+: typedSampleDoc :=
  ⟨" A name.\n ".toList, "\n.type Id <: symbol\n/**\n Every node.\n ".toList, by decide⟩

theorem typedSample_doc_own : typedSampleDeclaration ∈ all typedSample ∧
    ∃ before own after, typedSample = before ++ "/**\n".toList ++ own ++ closer ++ after ∧
      ¬ Declared after ∧ own ++ closer <+: typedSampleDoc := by
  obtain ⟨before, own, after, ht, -, -, hiff, -, hnot⟩ := doc_own_iff mem_all_typedSample
  have hafter : ¬ Declared after := fun h => hiff.mpr h closer_infix_typedSampleDoc
  exact ⟨mem_all_typedSample, before, own, after, ht, hafter, hnot hafter⟩

theorem exists_doc_beyond_own : ¬ ∀ t, ∀ d ∈ all t, ¬ closer <:+: d.doc := by
  intro h
  exact h typedSample typedSampleDeclaration mem_all_typedSample closer_infix_typedSampleDoc

end DatalogDoc.Declaration
