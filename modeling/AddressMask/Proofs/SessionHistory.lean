import AddressMask.Proofs.BinaryRoundTrip
import AddressMask.Proofs.TextRoundTrip
import Mathlib.Data.List.DropRight

/-!
# What a session holds, read off its history

A session is changed one step at a time, and steps depend on each other: an append reads the mask
that a decoding step wrote, and a decoding step reads the buffers that appends have filled.  The
*history* of a session keeps each step together with the session it was taken in (`Moment`), and
everything that the session holds can be read off it without running the steps again:

* a buffer is what the steps since the last clear added to it, in order, where an append adds the
  form of the mask that was current then, behind what is there (`octets_run`, `text_run`);
* the current mask is the last one that a step gave (`mask_run`).

Both follow by induction from the end of the history from what one step does (`octets_step`,
`text_step`, `mask_step`).  A step that is to give a mask either gives it and changes nothing else,
or fails and changes nothing at all (`step_of_outcome_ok`, `step_of_outcome_error`).

So a buffer to which one mask was appended, and otherwise nothing but forms of the invalid mask and
empty data, holds the form of that mask, and decoding it gives the mask back.
-/

namespace AddressMask

/-- A step, with the session in which it is taken. -/
structure Moment where
  session : Session
  step : Step

namespace Moment

/-- What the step adds to the octets. -/
def octets : Moment → Bytes
  | ⟨s, .appendBinary⟩ => s.mask.toBinary
  | ⟨_, .pushBytes bytes⟩ => bytes
  | _ => []

/-- What the step adds to the text. -/
def text : Moment → String
  | ⟨s, .appendText⟩ => s.mask.toText
  | ⟨_, .pushText text⟩ => text
  | _ => ""

/-- What comes of a step that is to give a mask.  The other steps are to give none. -/
def outcome? : Moment → Option (Except SourceError Mask)
  | ⟨_, .set source⟩ => some source.mask
  | ⟨s, .decodeBinary⟩ => some ((Mask.ofBinary s.octets).mapError .undecodable)
  | ⟨s, .decodeBytes⟩ => some ((Mask.ofBytes? s.octets).elim (.error .notAddressSized) .ok)
  | ⟨s, .decodeText⟩ => some ((Mask.ofText s.text).mapError .undecodable)
  | _ => none

/-- The mask that the step gives, if it is to give one and does not fail. -/
def mask? (x : Moment) : Option Mask := x.outcome?.bind Except.toOption

end Moment

namespace Session

/-! ## What one step does -/

theorem next_of_outcome {s : Session} {t : Step} {r : Except SourceError Mask}
    (h : Moment.outcome? ⟨s, t⟩ = some r) : s.next t = r.map fun m => { s with mask := m } := by
  cases t with
  | set source => cases h; rfl
  | decodeBinary => cases h; rfl
  | decodeText => cases h; rfl
  | decodeBytes =>
    cases h
    rw [next, load, Source.mask_rawBytes]
    cases Mask.ofBytes? s.octets <;> rfl
  | appendBinary | appendText | pushBytes _ | pushText _ | clear => cases h

/-- A step that gives a mask changes nothing but the current mask. -/
theorem step_of_outcome_ok {s : Session} {t : Step} {m : Mask}
    (h : Moment.outcome? ⟨s, t⟩ = some (.ok m)) :
    s.step t = { s with mask := m } ∧ s.failure? t = none := by
  rw [step, failure?, next_of_outcome h]
  exact ⟨rfl, rfl⟩

/-- A step that is to give a mask and fails changes nothing. -/
theorem step_of_outcome_error {s : Session} {t : Step} {e : SourceError}
    (h : Moment.outcome? ⟨s, t⟩ = some (.error e)) : s.step t = s ∧ s.failure? t = some e := by
  rw [step, failure?, next_of_outcome h]
  exact ⟨rfl, rfl⟩

theorem buffers_of_outcome {s : Session} {t : Step} {r : Except SourceError Mask}
    (h : Moment.outcome? ⟨s, t⟩ = some r) :
    (s.step t).octets = s.octets ∧ (s.step t).text = s.text := by
  cases r with
  | ok m => rw [(step_of_outcome_ok h).1]; exact ⟨rfl, rfl⟩
  | error e => rw [(step_of_outcome_error h).1]; exact ⟨rfl, rfl⟩

theorem octets_step (s : Session) (t : Step) :
    (s.step t).octets = if t = .clear then [] else s.octets ++ Moment.octets ⟨s, t⟩ := by
  cases t with
  | set _ | decodeBinary | decodeBytes | decodeText =>
    rw [(buffers_of_outcome rfl).1, if_neg nofun]
    exact (List.append_nil _).symm
  | appendText | pushText _ =>
    rw [if_neg nofun]
    exact (List.append_nil _).symm
  | appendBinary => exact Mask.appendBinary_eq s.mask s.octets
  | pushBytes _ | clear => rfl

theorem text_step (s : Session) (t : Step) :
    (s.step t).text = if t = .clear then "" else s.text ++ Moment.text ⟨s, t⟩ := by
  cases t with
  | set _ | decodeBinary | decodeBytes | decodeText =>
    rw [(buffers_of_outcome rfl).2, if_neg nofun]
    exact String.append_empty.symm
  | appendBinary | pushBytes _ =>
    rw [if_neg nofun]
    exact String.append_empty.symm
  | appendText => exact Mask.appendText_eq s.mask s.text
  | pushText _ | clear => rfl

theorem mask_step (s : Session) (t : Step) :
    (s.step t).mask = (Moment.mask? ⟨s, t⟩).getD s.mask := by
  unfold Moment.mask?
  cases h : Moment.outcome? ⟨s, t⟩ with
  | none =>
    cases t with
    | set _ | decodeBinary | decodeBytes | decodeText => cases h
    | appendBinary | appendText | pushBytes _ | pushText _ | clear => rfl
  | some r =>
    cases r with
    | ok m => rw [(step_of_outcome_ok h).1]; rfl
    | error e => rw [(step_of_outcome_error h).1]; rfl

/-! ## Histories -/

/-- The steps, each with the session in which it is taken. -/
def history (s : Session) : List Step → List Moment
  | [] => []
  | t :: steps => ⟨s, t⟩ :: (s.step t).history steps

@[simp] theorem history_nil (s : Session) : s.history [] = [] := rfl

@[simp] theorem history_cons (s : Session) (t : Step) (steps : List Step) :
    s.history (t :: steps) = ⟨s, t⟩ :: (s.step t).history steps := rfl

@[simp] theorem length_history (s : Session) (steps : List Step) :
    (s.history steps).length = steps.length := by
  induction steps generalizing s with
  | nil => rfl
  | cons t steps ih => exact congrArg (· + 1) (ih (s.step t))

theorem history_append (s : Session) (before after : List Step) :
    s.history (before ++ after) = s.history before ++ (s.run before).history after := by
  induction before generalizing s with
  | nil => rfl
  | cons t before ih => rw [List.cons_append, history_cons, ih, history_cons, run_cons]; rfl

theorem history_concat (s : Session) (steps : List Step) (t : Step) :
    s.history (steps ++ [t]) = s.history steps ++ [⟨s.run steps, t⟩] := history_append s steps [t]

/-- A step is taken in the session that the steps before it have led to. -/
theorem getElem?_history (s : Session) (before : List Step) (t : Step) (after : List Step) :
    (s.history (before ++ t :: after))[before.length]? = some ⟨s.run before, t⟩ := by
  rw [history_append, List.getElem?_append_right (Nat.le_of_eq (length_history s before)),
    length_history, Nat.sub_self]
  rfl

/-- What is seen of the steps one after the other is what each does to the session it is taken in. -/
theorem trace_eq (s : Session) (steps : List Step) :
    s.trace steps =
      (s.history steps).map fun x => (x.session.step x.step, x.session.failure? x.step) := by
  induction steps generalizing s with
  | nil => rfl
  | cons t steps ih => rw [trace, ih, history_cons, List.map_cons]

theorem run_concat (s : Session) (steps : List Step) (t : Step) :
    s.run (steps ++ [t]) = (s.run steps).step t := run_append s steps [t]

/-- The moments after the last clear, or all of them if there is none. -/
def sinceClear (moments : List Moment) : List Moment :=
  moments.rtakeWhile fun x => x.step ≠ .clear

theorem sinceClear_concat (moments : List Moment) (x : Moment) :
    sinceClear (moments ++ [x]) = if x.step = .clear then [] else sinceClear moments ++ [x] := by
  rw [sinceClear, List.rtakeWhile_concat]
  by_cases h : x.step = .clear
  · rw [if_pos h, if_neg (by simp [h])]
  · rw [if_neg h, if_pos (by simp [h])]
    rfl

theorem octets_run (steps : List Step) :
    (start.run steps).octets = (sinceClear (start.history steps)).flatMap Moment.octets := by
  induction steps using List.reverseRecOn with
  | nil => rfl
  | append_singleton steps t ih =>
    rw [run_concat, octets_step, history_concat, sinceClear_concat]
    by_cases h : t = .clear
    · rw [if_pos h, if_pos h]
      rfl
    · rw [if_neg h, if_neg h, ih, List.flatMap_append, List.flatMap_singleton]

theorem text_run (steps : List Step) :
    (start.run steps).text = String.join ((sinceClear (start.history steps)).map Moment.text) := by
  induction steps using List.reverseRecOn with
  | nil => rfl
  | append_singleton steps t ih =>
    rw [run_concat, text_step, history_concat, sinceClear_concat]
    by_cases h : t = .clear
    · rw [if_pos h, if_pos h]
      rfl
    · rw [if_neg h, if_neg h, ih, List.map_append, String.join_append, List.map_singleton]
      simp

theorem mask_run (steps : List Step) :
    (start.run steps).mask =
      ((start.history steps).filterMap Moment.mask?).getLast?.getD default := by
  induction steps using List.reverseRecOn with
  | nil => rfl
  | append_singleton steps t ih =>
    rw [run_concat, mask_step, history_concat, List.filterMap_append, ih]
    cases h : Moment.mask? ⟨start.run steps, t⟩ with
    | none => simp [h]
    | some m => simp [h]

theorem constructible_of_mem_history {s : Session} (hs : s.mask.Constructible) {steps : List Step}
    {x : Moment} (hx : x ∈ s.history steps) : x.session.mask.Constructible := by
  induction steps generalizing s with
  | nil => cases hx
  | cons t steps ih =>
    rcases List.mem_cons.mp hx with rfl | hx
    · exact hs
    · exact ih (constructible_step hs t) hx

/-! ## Buffers that hold one mask -/

/-- Of the moments one appends the mask `m`.  Any other that appends in the same form appends the
invalid mask, and all the raw data that is pushed is empty. -/
def AppendsOnce {α : Type} (append : Step) (push : α → Step) (empty : α) (m : Mask)
    (moments : List Moment) : Prop :=
  ∃ before s after, moments = before ++ ⟨s, append⟩ :: after ∧ s.mask = m ∧
    ∀ x ∈ before ++ after,
      (x.step = append → x.session.mask = .invalid) ∧ ∀ raw, x.step = push raw → raw = empty

/-- All that is added to a buffer is the form of the one mask, if the form of the invalid mask and
empty data add nothing. -/
theorem AppendsOnce.flatMap_eq {α β : Type} {append : Step} {push : α → Step} {empty : α}
    {m : Mask} {moments : List Moment} (h : AppendsOnce append push empty m moments)
    (added : Moment → List β)
    (hadded : ∀ x : Moment, (x.step = append → x.session.mask = .invalid) →
      (∀ raw, x.step = push raw → raw = empty) → added x = []) :
    ∃ s, s.mask = m ∧ moments.flatMap added = added ⟨s, append⟩ := by
  obtain ⟨before, s, after, rfl, hs, hothers⟩ := h
  have hnothing : ∀ x ∈ before ++ after, added x = [] :=
    fun x hx => hadded x (hothers x hx).1 (hothers x hx).2
  have hbefore : before.flatMap added = [] :=
    List.flatMap_eq_nil_iff.mpr fun x hx => hnothing x (List.mem_append_left _ hx)
  have hafter : after.flatMap added = [] :=
    List.flatMap_eq_nil_iff.mpr fun x hx => hnothing x (List.mem_append_right _ hx)
  refine ⟨s, hs, ?_⟩
  rw [List.flatMap_append, List.flatMap_cons, hbefore, hafter, List.nil_append, List.append_nil]

theorem octets_of_appendsOnce {m : Mask} {moments : List Moment}
    (h : AppendsOnce .appendBinary .pushBytes [] m moments) :
    moments.flatMap Moment.octets = m.toBinary := by
  obtain ⟨s, rfl, hs⟩ := h.flatMap_eq Moment.octets <| by
    rintro ⟨s, t⟩ happend hpush
    cases t with
    | appendBinary =>
      have hs : s.mask = .invalid := happend rfl
      rw [Moment.octets, hs, Mask.toBinary_invalid]
    | pushBytes bytes => exact hpush bytes rfl
    | set _ | appendText | pushText _ | clear | decodeBinary | decodeBytes | decodeText => rfl
  exact hs

theorem text_of_appendsOnce {m : Mask} {moments : List Moment}
    (h : AppendsOnce .appendText .pushText "" m moments) :
    String.join (moments.map Moment.text) = m.toText := by
  obtain ⟨s, rfl, hs⟩ := h.flatMap_eq (fun x => x.text.toList) <| by
    rintro ⟨s, t⟩ happend hpush
    cases t with
    | appendText =>
      have hs : s.mask = .invalid := happend rfl
      simp only [Moment.text, hs, Mask.toText_invalid, String.toList_empty]
    | pushText text => simp only [Moment.text, hpush text rfl, String.toList_empty]
    | set _ | appendBinary | pushBytes _ | clear | decodeBinary | decodeBytes | decodeText => rfl
  apply String.toList_inj.mp
  rw [String.toList_join, List.flatMap_map, hs]
  rfl

/-- The one mask that is appended is the current one at some moment. -/
theorem constructible_of_appendsOnce {α : Type} {append : Step} {push : α → Step} {empty : α}
    {m : Mask} {steps : List Step}
    (h : AppendsOnce append push empty m (sinceClear (start.history steps))) :
    m.Constructible := by
  obtain ⟨before, s, after, hsplit, rfl, -⟩ := h
  have hmem : (⟨s, append⟩ : Moment) ∈ sinceClear (start.history steps) := by
    rw [hsplit]
    exact List.mem_append_right _ (List.mem_cons_self ..)
  exact constructible_of_mem_history .default ((List.rtakeWhile_suffix _ _).subset hmem)

theorem decodeBinary_of_appendsOnce {m : Mask} {steps : List Step}
    (h : AppendsOnce .appendBinary .pushBytes [] m (sinceClear (start.history steps))) :
    Moment.outcome? ⟨start.run steps, .decodeBinary⟩ = some (.ok m) := by
  have hread := Mask.ofBinary_toBinary (constructible_of_appendsOnce h)
  rw [Moment.outcome?, octets_run, octets_of_appendsOnce h, hread]
  rfl

theorem decodeText_of_appendsOnce {m : Mask} {steps : List Step}
    (h : AppendsOnce .appendText .pushText "" m (sinceClear (start.history steps))) :
    Moment.outcome? ⟨start.run steps, .decodeText⟩ = some (.ok m) := by
  have hread := Mask.ofText_of_textReading
    (Mask.textReading_toText (constructible_of_appendsOnce h).wellFormed)
  rw [Moment.outcome?, text_run, text_of_appendsOnce h, hread]
  rfl

/-- **A session is what its history says**, after any steps in any order.  Each step is taken in the
session that the steps before it have led to, and what is seen of the session after each step is
what the step does there.  Each buffer is what the steps since the last clear added to it, an append
adding the form of the mask that was current at that moment, and the current mask is the last one
that a step gave.  A step that is to give a mask and fails changes nothing, and one that gives it
leaves the buffers as they are.  A buffer that since the last clear has been given one mask, and
otherwise only the invalid mask and empty data, is decoded to that mask. -/
theorem run_eq_of_history (steps : List Step) :
    (∀ before t after, steps = before ++ t :: after →
      (start.history steps)[before.length]? = some ⟨start.run before, t⟩) ∧
    start.trace steps =
      (start.history steps).map (fun x => (x.session.step x.step, x.session.failure? x.step)) ∧
    (start.run steps).octets = (sinceClear (start.history steps)).flatMap Moment.octets ∧
    (start.run steps).text = String.join ((sinceClear (start.history steps)).map Moment.text) ∧
    (start.run steps).mask =
      ((start.history steps).filterMap Moment.mask?).getLast?.getD default ∧
    (∀ t e, Moment.outcome? ⟨start.run steps, t⟩ = some (.error e) →
      (start.run steps).step t = start.run steps ∧ (start.run steps).failure? t = some e) ∧
    (∀ t m, Moment.outcome? ⟨start.run steps, t⟩ = some (.ok m) →
      (start.run steps).step t = { start.run steps with mask := m } ∧
        (start.run steps).failure? t = none) ∧
    (∀ m, AppendsOnce .appendBinary .pushBytes [] m (sinceClear (start.history steps)) →
      (start.run steps).step .decodeBinary = { start.run steps with mask := m } ∧
        (start.run steps).failure? .decodeBinary = none) ∧
    (∀ m, AppendsOnce .appendText .pushText "" m (sinceClear (start.history steps)) →
      (start.run steps).step .decodeText = { start.run steps with mask := m } ∧
        (start.run steps).failure? .decodeText = none) := by
  refine ⟨?_, trace_eq start steps, octets_run steps, text_run steps, mask_run steps,
    fun _ _ => step_of_outcome_error, fun _ _ => step_of_outcome_ok, fun m h => ?_, fun m h => ?_⟩
  · rintro before t after rfl
    exact getElem?_history start before t after
  · exact step_of_outcome_ok (decodeBinary_of_appendsOnce h)
  · exact step_of_outcome_ok (decodeText_of_appendsOnce h)

/-- Octets are pushed and cleared again, a mask is appended, and after it the invalid one. -/
theorem run_eq_of_history_of_clear :
    AppendsOnce .appendBinary .pushBytes [] (.ofPrefix 24 32)
        (sinceClear (start.history [.set (.leadingOnes 24 32), .pushBytes [7], .clear,
          .appendBinary, .set .invalid, .appendBinary])) ∧
      (start.run [.set (.leadingOnes 24 32), .pushBytes [7], .clear, .appendBinary, .set .invalid,
        .appendBinary]).step .decodeBinary = ⟨.ofPrefix 24 32, [255, 255, 255, 0], ""⟩ := by
  have honce : AppendsOnce .appendBinary .pushBytes [] (.ofPrefix 24 32)
      (sinceClear (start.history [.set (.leadingOnes 24 32), .pushBytes [7], .clear,
        .appendBinary, .set .invalid, .appendBinary])) := by
    refine ⟨[], _, _, rfl, rfl, ?_⟩
    intro x hx
    rcases List.mem_cons.mp hx with rfl | hx
    · exact ⟨nofun, nofun⟩
    · obtain rfl := List.mem_singleton.mp hx
      exact ⟨fun _ => rfl, nofun⟩
  obtain ⟨-, -, -, -, -, -, -, hdecode, -⟩ := run_eq_of_history [.set (.leadingOnes 24 32),
    .pushBytes [7], .clear, .appendBinary, .set .invalid, .appendBinary]
  exact ⟨honce, (hdecode _ honce).1⟩

end Session

end AddressMask
