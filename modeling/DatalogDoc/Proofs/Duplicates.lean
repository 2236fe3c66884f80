import DatalogDoc.Reference
import Mathlib

/-!
# Names that several declarations share

The names of a reference are met one after the other. Each is kept where it is met first, and told
if it is met again.
-/

namespace DatalogDoc

section FirstOccurrences

variable {α : Type} [BEq α] [LawfulBEq α]

theorem eraseDups_concat (l : List α) (a : α) :
    (l ++ [a]).eraseDups = if a ∈ l then l.eraseDups else l.eraseDups ++ [a] := by
  rw [List.eraseDups_append, List.removeAll]
  by_cases h : a ∈ l
  · simp [h]
  · simp [h, List.eraseDups_cons]

theorem pairwise_idxOf_eraseDups (l : List α) :
    l.eraseDups.Pairwise fun a b => l.idxOf a < l.idxOf b := by
  induction l using List.reverseRecOn with
  | nil => exact List.Pairwise.nil
  | append_singleton l a ih =>
    -- Nothing that was met before changes its place.
    have hold : ∀ b ∈ l.eraseDups, (l ++ [a]).idxOf b = l.idxOf b := by
      intro b hb
      exact List.idxOf_append_of_mem (List.mem_eraseDups.mp hb)
    have hkept : l.eraseDups.Pairwise fun b c => (l ++ [a]).idxOf b < (l ++ [a]).idxOf c := by
      refine ih.imp_of_mem ?_
      intro b c hb hc hlt
      rwa [hold b hb, hold c hc]
    rw [eraseDups_concat]
    split_ifs with ha
    · exact hkept
    · refine List.pairwise_append.mpr ⟨hkept, List.pairwise_singleton _ _, ?_⟩
      intro b hb c hc
      have hlast : (l ++ [a]).idxOf a = l.length := by
        simp [List.idxOf_append, ha]
      rw [List.mem_singleton.mp hc, hold b hb, hlast]
      exact List.idxOf_lt_length_iff.mpr (List.mem_eraseDups.mp hb)

theorem nodup_eraseDups (l : List α) : l.eraseDups.Nodup :=
  (pairwise_idxOf_eraseDups l).imp fun hlt heq => by simp [heq] at hlt

theorem perm_dedup_eraseDups [DecidableEq α] (l : List α) : l.dedup.Perm l.eraseDups := by
  rw [List.perm_ext_iff_of_nodup (List.nodup_dedup l) (nodup_eraseDups l)]
  intro a
  rw [List.mem_dedup, List.mem_eraseDups]

theorem sum_map_count_eraseDups (l : List α) :
    (l.eraseDups.map fun a => l.count a).sum = l.length := by
  classical
  rw [← ((perm_dedup_eraseDups l).map _).sum_eq]
  have hcount := List.sum_map_count_dedup_eq_length l
  rwa [lawful_beq_subsingleton instBEqOfDecidableEq ‹BEq α›] at hcount

end FirstOccurrences

theorem sum_map_eq_length_add {α : Type} (f : α → Nat) {l : List α} (h : ∀ a ∈ l, 0 < f a) :
    (l.map f).sum = l.length + ((l.filter (1 < f ·)).map (f · - 1)).sum := by
  induction l with
  | nil => rfl
  | cons a l ih =>
    have ha := h a (by simp)
    have hl := ih fun b hb => h b (by simp [hb])
    rw [List.map_cons, List.sum_cons, hl, List.length_cons, List.filter_cons]
    split_ifs with hmore
    · rw [List.map_cons, List.sum_cons]
      omega
    · simp only [decide_eq_true_eq] at hmore
      omega

namespace Tally

/-- The tally is that of the names met so far, each of which has an entry. -/
structure Of (tally : Tally) (names : List Text) : Prop where
  counts : ∀ name, tally.counts.lookup name = if name ∈ names then some (names.count name) else none
  order : tally.order = names.eraseDups

variable {tally : Tally} {names : List Text}

theorem of_empty : empty.Of [] where
  counts _ := rfl
  order := rfl

theorem Of.count (h : tally.Of names) (name : Text) :
    (tally.counts.lookup name).getD 0 = names.count name := by
  rw [h.counts]
  split_ifs with hname
  · rfl
  · exact (List.count_eq_zero.mpr hname).symm

theorem Of.meet (h : tally.Of names) (name : Text) : (tally.meet name).Of (names ++ [name]) where
  counts other := by
    rw [Tally.meet, h.count, List.lookup_cons]
    by_cases hother : other = name
    · simp [hother]
    · have hne : (other == name) = false := beq_eq_false_iff_ne.mpr hother
      simp [hne, hother, h.counts, Ne.symm hother]
  order := by
    rw [Tally.meet, h.count, eraseDups_concat, h.order]
    simp only [List.count_eq_zero, ite_not]

theorem of_foldl (names : List Text) : (names.foldl meet empty).Of names := by
  induction names using List.reverseRecOn with
  | nil => exact of_empty
  | append_singleton names name ih =>
    rw [List.foldl_concat]
    exact ih.meet name

theorem Of.repeated (h : tally.Of names) :
    tally.repeated =
      (names.eraseDups.filter (1 < names.count ·)).map fun name => (name, names.count name) := by
  rw [← List.filterMap_eq_map, List.filterMap_filter]
  simp only [Tally.repeated, h.count, h.order, decide_eq_true_eq, Function.comp_apply]

end Tally

namespace Reference

def named (r : Reference) (name : Text) : List Declaration :=
  r.declarations.filter (·.name == name)

def firstNamed (r : Reference) (name : Text) : Nat := r.declarations.findIdx (·.name == name)

def names (r : Reference) : List Text := r.declarations.map Declaration.name

theorem count_names (r : Reference) (name : Text) : r.names.count name = (r.named name).length := by
  rw [names, named, List.count_eq_countP, List.countP_map, List.countP_eq_length_filter]
  rfl

theorem idxOf_names (r : Reference) (name : Text) : r.names.idxOf name = r.firstNamed name := by
  rw [names, firstNamed, List.idxOf, List.findIdx_map]
  rfl

theorem duplicates_eq_map (r : Reference) :
    r.duplicates =
      (r.names.eraseDups.filter (1 < r.names.count ·)).map fun name => (name, r.names.count name) := by
  have htally := Tally.of_foldl r.names
  rw [names, List.foldl_map] at htally
  exact htally.repeated

theorem nodup_duplicates (r : Reference) : (r.duplicates.map Prod.fst).Nodup := by
  rw [duplicates_eq_map, List.map_map, Function.comp_def, List.map_id']
  exact (nodup_eraseDups r.names).filter _

theorem mem_duplicates_iff {r : Reference} {name : Text} {count : Nat} :
    (name, count) ∈ r.duplicates ↔ 2 ≤ count ∧ (r.named name).length = count := by
  rw [duplicates_eq_map, ← count_names]
  simp only [List.mem_map, List.mem_filter, List.mem_eraseDups, decide_eq_true_eq, Prod.mk.injEq]
  constructor
  · intro h
    obtain ⟨_, ⟨-, hmore⟩, rfl, rfl⟩ := h
    exact ⟨hmore, rfl⟩
  · intro h
    obtain ⟨hmore, rfl⟩ := h
    exact ⟨name, ⟨List.count_pos_iff.mp (by omega), hmore⟩, rfl, rfl⟩

theorem pairwise_duplicates (r : Reference) :
    r.duplicates.Pairwise fun a b => r.firstNamed a.1 < r.firstNamed b.1 := by
  rw [duplicates_eq_map, List.pairwise_map]
  refine ((pairwise_idxOf_eraseDups r.names).filter _).imp ?_
  intro a b hlt
  rwa [idxOf_names, idxOf_names] at hlt

theorem declarationCount_eq_add (r : Reference) :
    r.declarationCount = r.names.toFinset.card + (r.duplicates.map (·.2 - 1)).sum := by
  have hmet : ∀ name ∈ r.names.eraseDups, 0 < r.names.count name := by
    intro name hname
    exact List.count_pos_iff.mpr (List.mem_eraseDups.mp hname)
  have hcard : r.names.toFinset.card = r.names.eraseDups.length := by
    rw [List.card_toFinset, (perm_dedup_eraseDups r.names).length_eq]
  rw [duplicates_eq_map, List.map_map, hcard]
  calc r.declarationCount
    _ = r.names.length := (List.length_map _).symm
    _ = (r.names.eraseDups.map fun name => r.names.count name).sum :=
      (sum_map_count_eraseDups r.names).symm
    _ = _ := sum_map_eq_length_add r.names.count hmet

/-- The names that several declarations share are told once each, with the number of these, in the
order of their first declarations. By what they count beyond one, the declarations outnumber their
names. -/
theorem duplicates_exact (r : Reference) :
    (r.duplicates.map Prod.fst).Nodup ∧
      (∀ name count, (name, count) ∈ r.duplicates ↔ 2 ≤ count ∧ (r.named name).length = count) ∧
      r.duplicates.Pairwise (fun a b => r.firstNamed a.1 < r.firstNamed b.1) ∧
      r.declarationCount = r.names.toFinset.card + (r.duplicates.map (·.2 - 1)).sum :=
  ⟨nodup_duplicates r, fun _ _ => mem_duplicates_iff, pairwise_duplicates r,
    declarationCount_eq_add r⟩

example :
    duplicates ⟨[⟨⟨[], []⟩, [⟨[], "F(x)".toList⟩, ⟨[], "G)".toList⟩]⟩,
      ⟨⟨[], []⟩, [⟨[], "G()".toList⟩, ⟨[], "F(y)".toList⟩]⟩]⟩ = [("F".toList, 2)] := by decide

end Reference

end DatalogDoc
