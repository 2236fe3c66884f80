import DatalogDoc.Proofs.CallSteps

/-!
# Positions in a scan

Between any two characters that a scanner reads, its index, line and column agree with what has been
read, every index is in range, and no turn of a loop leaves it where it was.
-/

namespace DatalogDoc.Stepping

open StateTransition

variable {t : Text} {s s' : State}

/-- The cursor counts rightly what stands before it in the text. -/
def Placed (t : Text) (c : Cursor) : Prop := ∃ read rest, t = read ++ rest ∧ c = .behind read

theorem Placed.position_le {c : Cursor} (h : Placed t c) : c.position ≤ t.length := by
  obtain ⟨read, rest, rfl, rfl⟩ := h
  simp [Cursor.behind]

theorem Placed.location {c : Cursor} (h : Placed t c) :
    c.location = .behind (t.take c.position) := by
  obtain ⟨read, rest, rfl, rfl⟩ := h
  simp [Cursor.behind]

theorem Placed.advance {c : Cursor} (h : Placed t c) : Placed t (c.advance t) := by
  obtain ⟨read, rest, ht, rfl⟩ := h
  cases rest with
  | nil =>
    have hpeek : (Cursor.behind read).peek t = none := Cursor.peek_behind ht
    rw [Cursor.advance_of_peek_none hpeek]
    exact ⟨read, [], ht, rfl⟩
  | cons char rest =>
    rw [Cursor.advance_behind ht]
    exact ⟨read ++ [char], rest, by simpa using ht, rfl⟩

theorem Placed.nameAt?_isSome {c : Cursor} (h : Placed t c) (limit : Nat) :
    (nameAt? t limit c.position).isSome := by
  obtain ⟨read, rest, rfl, rfl⟩ := h
  change (nameAt? (read ++ rest) limit read.length).isSome
  rw [nameAt?_append]
  rfl

/-! ### One step -/

/-- Where one step can lead: over the next character, if one is left, unless a call begins or ends at
the end of the text. -/
inductive Goes (t : Text) (s : State) : State → Prop
  | begin : s.call = none → Goes t s (s.proceed s.cursor .start)
  | read (call : Call) : Goes t s (s.proceed (s.cursor.advance t) call)
  | readLast (outcome : Except ScanError (List Block)) :
      Goes t s (s.finish (s.cursor.advance t) outcome)
  | finish (outcome : Except ScanError (List Block)) :
      s.cursor.peek t = none → Goes t s (s.finish s.cursor outcome)

theorem Goes.position_le (h : Goes t s s') : s.cursor.position ≤ s'.cursor.position := by
  cases h with
  | begin _ => exact le_refl _
  | read _ => exact Cursor.position_le_advance t _
  | readLast _ => exact Cursor.position_le_advance t _
  | finish _ _ => exact le_refl _

theorem Goes.position_of_loop (h : Goes t s s') {loop : Loop} (hloop : s.loop? = some loop)
    {c : Char} (hc : s.cursor.peek t = some c) :
    s'.cursor.position = s.cursor.position + 1 := by
  cases h with
  | begin hcall => simp [State.loop?, hcall] at hloop
  | read _ => exact Cursor.position_advance hc
  | readLast _ => exact Cursor.position_advance hc
  | finish _ hend => simp [hc] at hend

theorem Goes.outcomes_kept (h : Goes t s s') : s.outcomes <+: s'.outcomes := by
  cases h with
  | begin _ => exact List.prefix_refl _
  | read _ => exact List.prefix_refl _
  | readLast outcome => exact List.prefix_append _ _
  | finish outcome _ => exact List.prefix_append _ _

/-- The indices of a call lie in what has been read, and its open block has counted a brace. -/
structure CallInRange (position : Nat) (call : Call) : Prop where
  segment : call.segment ≤ position
  body : ∀ b, call.body = some b → b.start ≤ position ∧ 1 ≤ b.depth ∧ b.depth ≤ position

theorem CallInRange.mono {position later : Nat} {call : Call} (h : CallInRange position call)
    (hle : position ≤ later) : CallInRange later call := by
  refine ⟨h.segment.trans hle, ?_⟩
  intro b hb
  obtain ⟨hstart, hpos, hdepth⟩ := h.body b hb
  exact ⟨hstart.trans hle, hpos, hdepth.trans hle⟩

theorem CallInRange.switch {position : Nat} {call : Call} (h : CallInRange position call)
    (reading : Reading) : CallInRange position (call.switch reading) := ⟨h.segment, h.body⟩

theorem CallInRange.resume {here : Cursor} {call : Call} (h : CallInRange here.position call) :
    CallInRange here.position (call.resume here) := by
  refine ⟨?_, h.body⟩
  rw [Call.resume]
  split
  · exact le_refl _
  · exact h.segment

structure InRange (t : Text) (s : State) : Prop where
  cursor : Placed t s.cursor
  call : ∀ call, s.call = some call → CallInRange s.cursor.position call

theorem inRange_start (t : Text) : InRange t .start := ⟨⟨[], t, rfl, rfl⟩, by simp [State.start]⟩

theorem InRange.next_call (h : InRange t s) {call : Call} (hcall : s.call = some call) :
    CallInRange (s.cursor.advance t).position call :=
  (h.call call hcall).mono (Cursor.position_le_advance t _)

theorem InRange.read (h : InRange t s) {call : Call}
    (hcall : CallInRange (s.cursor.advance t).position call) :
    Goes t s (s.proceed (s.cursor.advance t) call) ∧
      InRange t (s.proceed (s.cursor.advance t) call) := by
  refine ⟨.read call, h.cursor.advance, ?_⟩
  intro call' hcall'
  obtain rfl := Option.some.inj hcall'
  exact hcall

theorem InRange.readLast (h : InRange t s) (outcome : Except ScanError (List Block)) :
    Goes t s (s.finish (s.cursor.advance t) outcome) ∧
      InRange t (s.finish (s.cursor.advance t) outcome) :=
  ⟨.readLast outcome, h.cursor.advance, by simp [State.finish]⟩

theorem InRange.finish (h : InRange t s) (hend : s.cursor.peek t = none)
    (outcome : Except ScanError (List Block)) :
    Goes t s (s.finish s.cursor outcome) ∧ InRange t (s.finish s.cursor outcome) :=
  ⟨.finish outcome hend, h.cursor, by simp [State.finish]⟩

theorem InRange.exists_stepOutside (h : InRange t s) {call : Call} (hcall : s.call = some call) :
    ∃ s', stepOutside t s call = some s' ∧ Goes t s s' ∧ InRange t s' := by
  have hnext := h.next_call hcall
  unfold stepOutside
  split
  · exact ⟨_, rfl, h.read (hnext.switch _)⟩
  · split
    · exact ⟨_, rfl, h.finish ‹_› _⟩
    · obtain ⟨name, hname⟩ := Option.isSome_iff_exists.mp (h.cursor.nameAt?_isSome call.segment)
      rw [hname]
      refine ⟨_, rfl, h.read ⟨hnext.segment, ?_⟩⟩
      intro b hb
      obtain rfl := Option.some.inj hb
      refine ⟨le_refl _, le_refl _, ?_⟩
      rw [Cursor.position_advance ‹_›]
      exact Nat.le_add_left 1 _
    · exact ⟨_, rfl, h.read hnext⟩

theorem InRange.exists_stepInside (h : InRange t s) {call : Call} {b : OpenBody}
    (hcall : s.call = some call) (hbody : call.body = some b) :
    ∃ s', stepInside t s call b = some s' ∧ Goes t s s' ∧ InRange t s' := by
  have hnext := h.next_call hcall
  obtain ⟨hstart, hpos, hdepth⟩ := (h.call call hcall).body b hbody
  have hlast := Cursor.position_le_advance t s.cursor
  unfold stepInside
  split
  · exact ⟨_, rfl, h.read (hnext.switch _)⟩
  · split
    · exact ⟨_, rfl, h.finish ‹_› _⟩
    · refine ⟨_, rfl, h.read ⟨hnext.segment, ?_⟩⟩
      intro b' hb'
      obtain rfl := Option.some.inj hb'
      refine ⟨hstart.trans hlast, Nat.le_add_left 1 _, ?_⟩
      rw [Cursor.position_advance ‹_›]
      exact Nat.add_le_add_right hdepth 1
    · -- The brace counted for the block itself is what keeps the difference in range.
      have hsub : sub? b.depth 1 = some (b.depth - 1) := if_pos hpos
      rw [hsub, Option.bind_some]
      split
      · have hslice : slice? t b.start s.cursor.position = some _ :=
          if_pos ⟨hstart, h.cursor.position_le⟩
        rw [hslice]
        exact ⟨_, rfl, h.read ⟨le_refl _, by simp⟩⟩
      · refine ⟨_, rfl, h.read ⟨hnext.segment, ?_⟩⟩
        intro b' hb'
        obtain rfl := Option.some.inj hb'
        dsimp only
        omega
    · exact ⟨_, rfl, h.read hnext⟩

theorem InRange.exists_step (h : InRange t s) :
    ∃ s', step t s = some s' ∧ Goes t s s' ∧ InRange t s' := by
  cases hcall : s.call with
  | none =>
    refine ⟨s.proceed s.cursor .start, by simp [step, hcall], .begin hcall, h.cursor, ?_⟩
    intro call hstart
    obtain rfl := Option.some.inj hstart
    exact ⟨Nat.zero_le _, by simp [Call.start]⟩
  | some call =>
    have hnext := h.next_call hcall
    cases hreading : call.reading with
    | code =>
      cases hbody : call.body with
      | none =>
        simp only [step, hcall, hreading, hbody]
        exact h.exists_stepOutside hcall
      | some b =>
        simp only [step, hcall, hreading, hbody]
        exact h.exists_stepInside hcall hbody
    | slash place =>
      simp only [step, hcall, hreading]
      exact ⟨_, rfl, h.read (hnext.switch _)⟩
    | lineComment =>
      simp only [step, hcall, hreading]
      split
      · exact ⟨_, rfl, h.read hnext.resume⟩
      · exact ⟨_, rfl, h.read hnext.resume⟩
      · exact ⟨_, rfl, h.read hnext⟩
    | blockComment place =>
      simp only [step, hcall, hreading]
      split
      · exact ⟨_, rfl, h.finish ‹_› _⟩
      · refine ⟨_, rfl, h.read ?_⟩
        split
        · exact hnext.switch _
        · exact hnext
    | star =>
      simp only [step, hcall, hreading]
      exact ⟨_, rfl, h.read hnext.resume⟩
    | quoted place =>
      simp only [step, hcall, hreading]
      split
      · exact ⟨_, rfl, h.readLast _⟩
      · exact ⟨_, rfl, h.readLast _⟩
      · exact ⟨_, rfl, h.read hnext.resume⟩
      · exact ⟨_, rfl, h.read (hnext.switch _)⟩
      · exact ⟨_, rfl, h.read hnext⟩
    | backslash place =>
      simp only [step, hcall, hreading]
      exact ⟨_, rfl, h.read (hnext.switch _)⟩

theorem InRange.goes (h : InRange t s) (hstep : step t s = some s') :
    Goes t s s' ∧ InRange t s' := by
  obtain ⟨next, hnext, hgoes, hrange⟩ := h.exists_step
  obtain rfl := Option.some.inj (hnext.symm.trans hstep)
  exact ⟨hgoes, hrange⟩

/-! ### A run -/

theorem InRange.reaches (h : InRange t s) (hs : Reaches (step t) s s') :
    InRange t s' ∧ s.cursor.position ≤ s'.cursor.position ∧ s.outcomes <+: s'.outcomes := by
  induction hs with
  | refl => exact ⟨h, le_refl _, List.prefix_refl _⟩
  | tail _ hstep ih =>
    obtain ⟨hrange, hposition, houtcomes⟩ := ih
    obtain ⟨hgoes, hnext⟩ := hrange.goes hstep
    exact ⟨hnext, hposition.trans hgoes.position_le, houtcomes.trans hgoes.outcomes_kept⟩

theorem InRange.position_lt (h : InRange t s) {loop : Loop} (hloop : s.loop? = some loop) {c : Char}
    (hc : s.cursor.peek t = some c) (hs : Reaches₁ (step t) s s') :
    s.cursor.position < s'.cursor.position := by
  obtain ⟨next, hstep, hmore⟩ := Relation.TransGen.head'_iff.mp hs
  obtain ⟨hgoes, hrange⟩ := h.goes hstep
  have hnext := hgoes.position_of_loop hloop hc
  have hlater := (hrange.reaches hmore).2.1
  omega

theorem inRange_of_reaches (h : Reaches (step t) .start s) : InRange t s :=
  ((inRange_start t).reaches h).1

theorem outcomes_of_reaches (h : Reaches (step t) .start s) :
    s.outcomes = (Scanner.ofText t).repeated s.outcomes.length := by
  -- Behind every state one call more comes to an end.
  obtain ⟨read, -, hlater⟩ := exists_reaches_repeated t (s.outcomes.length + 1)
  have hprefix : s.outcomes <+: (Scanner.ofText t).repeated (s.outcomes.length + 1) := by
    rcases reaches_total h hlater with hbefore | hbehind
    · exact ((inRange_of_reaches h).reaches hbefore).2.2
    · have hmore := ((inRange_of_reaches hlater).reaches hbehind).2.2.length_le
      rw [Scanner.length_repeated] at hmore
      omega
  have htake := List.prefix_iff_eq_take.mp hprefix
  rwa [Scanner.take_repeated _ (Nat.le_succ _)] at htake

/-- Between any two characters that the calls on one scanner read, the line and column count what
stands before the index, a name is looked for between indices of the text, a block that is open
starts in front of the index and has counted a brace, and every turn of a loop moves on. No step
leaves the range of an index, and the calls end one after another with the outcomes of the
scanner. -/
theorem reached_in_range (t : Text) :
    (∀ s, Reaches (step t) .start s →
      (step t s).isSome ∧
      s.cursor.position ≤ t.length ∧
      s.cursor.location = Location.behind (t.take s.cursor.position) ∧
      (∀ call, s.call = some call →
        (s.loop? = some .outside → s.cursor.peek t = some '{' →
          call.segment ≤ s.cursor.position ∧ s.cursor.position < t.length ∧
            (nameAt? t call.segment s.cursor.position).isSome) ∧
        ∀ b, call.body = some b →
          b.start ≤ s.cursor.position ∧ 1 ≤ b.depth ∧ b.depth ≤ s.cursor.position) ∧
      (∀ loop c, s.loop? = some loop → s.cursor.peek t = some c →
        ∀ s', Reaches₁ (step t) s s' → s.cursor.position < s'.cursor.position) ∧
      s.outcomes = (Scanner.ofText t).repeated s.outcomes.length) ∧
    ∀ n, ∃ s, Reaches (step t) .start s ∧ s.call = none ∧
      s.outcomes = (Scanner.ofText t).repeated n ∧
      s.cursor.location = (Scanner.next^[n] (Scanner.ofText t)).location ∧
      t.drop s.cursor.position = (Scanner.next^[n] (Scanner.ofText t)).rest := by
  refine ⟨?_, ?_⟩
  · intro s hs
    have hrange := inRange_of_reaches hs
    obtain ⟨next, hstep, -⟩ := hrange.exists_step
    refine ⟨by rw [hstep]; rfl, hrange.cursor.position_le, hrange.cursor.location, ?_, ?_,
      outcomes_of_reaches hs⟩
    · intro call hcall
      have hindices := hrange.call call hcall
      refine ⟨?_, hindices.body⟩
      intro _ hopen
      exact ⟨hindices.segment, (List.getElem?_eq_some_iff.mp hopen).1,
        hrange.cursor.nameAt?_isSome call.segment⟩
    · intro loop c hloop hc s' hs'
      exact hrange.position_lt hloop hc hs'
  · intro n
    obtain ⟨read, hrests, hreaches⟩ := exists_reaches_repeated t n
    refine ⟨_, hreaches, rfl, rfl, ?_, ?_⟩
    · rw [hrests.location, Location.start_after]
      rfl
    · have hdrop := congrArg (List.drop read.length) hrests.split
      rwa [List.drop_left] at hdrop

/-- The first call has ended at a broken string, and the second is two braces deep. -/
example :
    ((·.bind (step "A \x7b\"x\n\x7d B \x7b/*\x7b*/ \x7b\x7d".toList))^[20] (some .start)).map
        (fun s => (s.cursor.position, s.cursor.location, s.outcomes,
          (s.call.bind (·.body)).map fun b => (b.name, b.start, b.depth))) =
      some (18, ⟨2, 13⟩, [.error ⟨.openString, ⟨1, 4⟩⟩], some (some " B".toList, 11, 2)) := by
  cbv

end DatalogDoc.Stepping
