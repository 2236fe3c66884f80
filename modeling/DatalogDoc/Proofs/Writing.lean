import DatalogDoc.Writer
import Mathlib

/-!
# What a writer hands over

A writer hands over what it is given, in order and whole, unless the outlet has no room for it; then
the outlet has taken a front of it.
-/

namespace DatalogDoc

namespace Job

variable {α β : Type} {job : Job α} {p : Progress} {post : α → Progress → Prop}
  {fail : Error → Progress → Prop}

def Ensures (job : Job α) (p : Progress) (post : α → Progress → Prop)
    (fail : Error → Progress → Prop) : Prop :=
  match job.perform p with
  | (.ok a, q) => post a q
  | (.error e, q) => fail e q

theorem ensures_pure {a : α} (h : post a p) : (pure a : Job α).Ensures p post fail := h

theorem Ensures.imp {post' : α → Progress → Prop} {fail' : Error → Progress → Prop}
    (h : job.Ensures p post fail) (hpost : ∀ a q, post a q → post' a q)
    (hfail : ∀ e q, fail e q → fail' e q) : job.Ensures p post' fail' := by
  rw [Ensures] at h ⊢
  rcases hrun : job.perform p with ⟨result, q⟩
  rw [hrun] at h
  cases result with
  | ok a => exact hpost a q h
  | error e => exact hfail e q h

theorem Ensures.bind {next : α → Job β} {post' : β → Progress → Prop}
    (h : job.Ensures p post fail) (hnext : ∀ a q, post a q → (next a).Ensures q post' fail) :
    (job >>= next).Ensures p post' fail := by
  rw [Ensures] at h ⊢
  rw [perform_bind]
  rcases hrun : job.perform p with ⟨result, q⟩
  rw [hrun] at h
  cases result with
  | ok a => exact hnext a q h
  | error e => exact h

end Job

/-- Some bytes have reached an outlet, block after block. -/
inductive Outlet.Takes (o : Outlet) (p : Progress) : Bytes → Progress → Prop
  | nothing : Takes o p [] p
  | block {sent : Bytes} {q : Progress} (h : Takes o p sent q) (bytes : Bytes) :
    Takes o p (sent ++ bytes) (q.deliver o bytes)

namespace Outlet.Takes

variable {o : Outlet} {p q : Progress} {sent : Bytes} {path : Path}

theorem stdout_eq (h : (Outlet.stream 1).Takes p sent q) : q.stdout = p.stdout ++ sent := by
  induction h with
  | nothing => simp
  | block _ bytes ih => simp [Progress.deliver, ih]

theorem stdout_of_ne (h : o.Takes p sent q) (ho : o ≠ .stream 1) : q.stdout = p.stdout := by
  induction h with
  | nothing => rfl
  | block _ bytes ih => rw [Progress.stdout_deliver_of_ne _ ho, ih]

theorem files_of_stream {n : Nat} (h : (Outlet.stream n).Takes p sent q) : q.files = p.files := by
  induction h with
  | nothing => rfl
  | block _ bytes ih => rw [Progress.files_deliver_stream, ih]

theorem files_of_device {d : Device} (h : (Outlet.file path).Takes p sent q)
    (hd : p.files.get? path = some (.device d)) : q.files = p.files := by
  induction h with
  | nothing => rfl
  | block _ bytes ih => simp [Progress.deliver, Files.append, ih, hd]

theorem get?_self {content : Bytes} {executable : Bool} (h : (Outlet.file path).Takes p sent q)
    (hpath : path ≠ []) (hp : p.files.get? path = some (.regular content executable)) :
    q.files.get? path = some (.regular (content ++ sent) executable) := by
  induction h with
  | nothing => simp [hp]
  | block _ bytes ih => simp [Progress.deliver, Files.append, ih, Files.get?_put_self _ hpath]

theorem get?_of_ne {other : Path} (h : (Outlet.file path).Takes p sent q) (hne : other ≠ path) :
    q.files.get? other = p.files.get? other := by
  induction h with
  | nothing => rfl
  | @block _ q _ bytes ih =>
    rw [← ih, Progress.deliver, Files.append]
    cases q.files.get? path with
    | none => rfl
    | some node =>
      cases node with
      | regular content executable => exact Files.get?_put_of_ne _ hne _
      | directory | tool t | device d => rfl

end Outlet.Takes

namespace Writer

variable {w₀ w : Writer} {p₀ p : Progress} {sent given : Bytes}

def Accepts (w : Writer) (bytes : Bytes) : Prop :=
  ∀ n e, w.limit = some (n, e) → w.taken + bytes.length ≤ n

/-- A writer that has been given nothing yet. Others may have written to its outlet. -/
def Fresh (w : Writer) : Prop := w.Accepts [] ∧ w.buffer = []

structure Sent (w₀ : Writer) (p₀ : Progress) (sent : Bytes) (w : Writer) (p : Progress) : Prop where
  outlet : w.outlet = w₀.outlet
  limit : w.limit = w₀.limit
  takes : w₀.outlet.Takes p₀ sent p
  taken : w.taken = w₀.taken + sent.length
  accepts : w₀.Accepts sent

/-- What a writer has been given since it began: some is handed over, the rest is in its buffer. -/
def Given (w₀ : Writer) (p₀ : Progress) (given : Bytes) (w : Writer) (p : Progress) : Prop :=
  ∃ sent, Sent w₀ p₀ sent w p ∧ sent ++ w.buffer = given

/-- The outlet has no room for what a writer was given, and has taken a front of it. -/
def Refused (w₀ : Writer) (p₀ : Progress) (given : Bytes) (error : Error) (p : Progress) : Prop :=
  ¬ w₀.Accepts given ∧ (∃ reason, error = .notWritten reason) ∧
    ∃ sent, w₀.outlet.Takes p₀ sent p ∧ sent <+: given

theorem Accepts.mono {a b : Bytes} (h : w.Accepts b) (hab : a <+: b) : w.Accepts a :=
  fun n e hn => (Nat.add_le_add_left hab.length_le _).trans (h n e hn)

theorem Refused.mono {given' : Bytes} {error : Error} (h : Refused w₀ p₀ given error p)
    (hg : given <+: given') : Refused w₀ p₀ given' error p := by
  obtain ⟨hroom, hreason, sent, htakes, hsent⟩ := h
  exact ⟨fun haccepts => hroom (haccepts.mono hg), hreason, sent, htakes, hsent.trans hg⟩

theorem Sent.of_buffer (h : Sent w₀ p₀ sent w p) (buffer : Bytes) :
    Sent w₀ p₀ sent { w with buffer } p :=
  ⟨h.outlet, h.limit, h.takes, h.taken, h.accepts⟩

theorem not_accepts_iff {bytes : Bytes} :
    ¬ w.Accepts bytes ↔ ∃ n e, w.limit = some (n, e) ∧ n < w.taken + bytes.length := by
  simp only [Accepts, not_forall, Nat.not_le, exists_prop]

theorem Sent.taken_add (h : Sent w₀ p₀ sent w p) (bytes : Bytes) :
    w.taken + bytes.length = w₀.taken + (sent ++ bytes).length := by
  rw [h.taken, List.length_append, Nat.add_assoc]

theorem Sent.accepts_iff (h : Sent w₀ p₀ sent w p) (bytes : Bytes) :
    w.Accepts bytes ↔ w₀.Accepts (sent ++ bytes) := by
  rw [Accepts, Accepts, h.limit, h.taken_add]

theorem perform_hand {bytes : Bytes} (h : w.Accepts bytes) :
    (w.hand bytes).perform p =
      (.ok { w with taken := w.taken + bytes.length }, p.deliver w.outlet bytes) := by
  obtain ⟨outlet, limit, taken, buffer⟩ := w
  cases limit with
  | none => rfl
  | some limit =>
    obtain ⟨n, e⟩ := limit
    simp only [Writer.hand, if_pos (h n e rfl)]
    rfl

theorem perform_hand_of_full {bytes : Bytes} {n : Nat} {e : OsError}
    (hlimit : w.limit = some (n, e)) (h : n < w.taken + bytes.length) :
    (w.hand bytes).perform p =
      (.error (.notWritten e), p.deliver w.outlet (bytes.take (n - w.taken))) := by
  simp only [Writer.hand, hlimit, if_neg (Nat.not_le.mpr h)]
  rfl

theorem Sent.hand (h : Sent w₀ p₀ sent w p) (bytes : Bytes) :
    (w.hand bytes).Ensures p
      (fun w' q => Sent w₀ p₀ (sent ++ bytes) w' q ∧ w'.buffer = w.buffer)
      (Refused w₀ p₀ (sent ++ bytes)) := by
  rw [Job.Ensures]
  by_cases haccepts : w.Accepts bytes
  · have hroom : w₀.Accepts (sent ++ bytes) := (h.accepts_iff bytes).mp haccepts
    rw [perform_hand haccepts, h.outlet]
    exact ⟨⟨rfl, h.limit, h.takes.block bytes, h.taken_add bytes, hroom⟩, rfl⟩
  · have hroom : ¬ w₀.Accepts (sent ++ bytes) := mt (h.accepts_iff bytes).mpr haccepts
    obtain ⟨n, e, hlimit, hfull⟩ := not_accepts_iff.mp haccepts
    rw [perform_hand_of_full hlimit hfull, h.outlet]
    exact ⟨hroom, ⟨e, rfl⟩, _, h.takes.block _,
      (List.prefix_append_right_inj sent).mpr (List.take_prefix _ _)⟩

theorem Sent.flush (h : Sent w₀ p₀ sent w p) :
    w.flush.Ensures p
      (fun w' q => Sent w₀ p₀ (sent ++ w.buffer) w' q ∧ w'.buffer = [])
      (Refused w₀ p₀ (sent ++ w.buffer)) := by
  refine (h.hand w.buffer).bind fun w' q hw => Job.ensures_pure ?_
  exact ⟨hw.1.of_buffer [], rfl⟩

theorem Sent.makeRoom (h : Sent w₀ p₀ sent w p) (n : Nat) :
    (w.makeRoom n).Ensures p
      (fun w' q => Given w₀ p₀ (sent ++ w.buffer) w' q ∧ (n < capacity ∨ w'.buffer = []))
      (Refused w₀ p₀ (sent ++ w.buffer)) := by
  rw [Writer.makeRoom]
  split_ifs with hfit
  · refine Job.ensures_pure ⟨⟨sent, h, rfl⟩, ?_⟩
    by_cases hlt : n < capacity
    · exact .inl hlt
    · exact .inr (List.eq_nil_of_length_eq_zero (by omega))
  · refine h.flush.imp (fun w' q hw => ?_) fun _ _ hrefused => hrefused
    exact ⟨⟨_, hw.1, by simp [hw.2]⟩, .inr hw.2⟩

theorem Given.put (h : Given w₀ p₀ given w p) (piece : Bytes) :
    (w.put piece).Ensures p (Given w₀ p₀ (given ++ piece)) (Refused w₀ p₀ (given ++ piece)) := by
  obtain ⟨sent, hsent, rfl⟩ := h
  have hroom := (hsent.makeRoom piece.length).imp (fun _ _ hw => hw)
    fun _ _ hrefused => hrefused.mono (List.prefix_append _ piece)
  refine hroom.bind fun w' q hw => ?_
  obtain ⟨⟨sent', hsent', hgiven⟩, hempty⟩ := hw
  rw [← hgiven]
  split_ifs with hlt
  · exact Job.ensures_pure ⟨sent', hsent'.of_buffer _, (List.append_assoc ..).symm⟩
  · -- Nothing is pending that this piece could get ahead of.
    rw [hempty.resolve_left hlt, List.append_nil]
    refine (hsent'.hand piece).imp (fun w'' q hw => ⟨_, hw.1, ?_⟩) fun _ _ hrefused => hrefused
    rw [hw.2, hempty.resolve_left hlt, List.append_nil]

theorem Given.write (h : Given w₀ p₀ given w p) (pieces : List Text) :
    (w.write pieces).Ensures p (Given w₀ p₀ (given ++ Utf8.encode pieces.flatten))
      (Refused w₀ p₀ (given ++ Utf8.encode pieces.flatten)) := by
  induction pieces generalizing given w p with
  | nil => exact Job.ensures_pure (by simpa [Utf8.encode] using h)
  | cons piece pieces ih =>
    have hwhole : given ++ Utf8.encode (piece :: pieces).flatten =
        given ++ Utf8.encode piece ++ Utf8.encode pieces.flatten := by
      simp [Utf8.encode]
    rw [hwhole]
    show ((w.put (Utf8.encode piece)) >>= fun w => w.write pieces).Ensures _ _ _
    have hput := (h.put (Utf8.encode piece)).imp (fun _ _ hw => hw)
      fun _ _ hrefused => hrefused.mono (List.prefix_append _ (Utf8.encode pieces.flatten))
    exact hput.bind fun w' q hw => ih hw

/-- A writer that begins hands over all that it is given, or its outlet has no room for that and
takes a front. -/
theorem Fresh.write_flush (h : w.Fresh) (p : Progress) (pieces : List Text) :
    (w.write pieces >>= Writer.flush).Ensures p
      (fun _ q => w.outlet.Takes p (Utf8.encode pieces.flatten) q ∧
        w.Accepts (Utf8.encode pieces.flatten))
      (Refused w p (Utf8.encode pieces.flatten)) := by
  have hbegin : Given w p [] w p :=
    ⟨[], ⟨rfl, rfl, .nothing, rfl, h.1⟩, h.2⟩
  refine Job.Ensures.bind (hbegin.write pieces) fun w' q hw => ?_
  obtain ⟨sent, hsent, hgiven⟩ := hw
  rw [List.nil_append] at hgiven
  have hflush := hsent.flush
  rw [hgiven] at hflush
  exact hflush.imp (fun _ q hq => ⟨hq.1.takes, hq.1.accepts⟩) fun _ _ h => h

end Writer

end DatalogDoc
