import ShopcityLoyalty.FinancialRetries

/-!
What a call of `runWithBoundedFinancialRetries` does, whatever the outcomes of its operation.

A note of the trace may answer the call. What one event does is said once, and read off it are
the number of calls of the operation, the note at which the call stops, the effects that are left
and that the call ends.
-/

namespace ShopcityLoyalty

open Process

variable {ι σ ε T δ : Type}

/-! ### What the trace tells -/

def RetryNote.isCall : RetryNote σ ε T → Bool
  | called _ => true
  | _ => false

namespace RetryCall

/-- How often the operation was called. -/
def calls (w : RetryCall ι σ ε T) : Nat := w.trace.countP RetryNote.isCall

/-- A statement of the operation, called for this attempt, changed what `view` shows. -/
def Committed (view : σ → δ) (w : RetryCall ι σ ε T) (attempt : Nat) : Prop :=
  ∃ found left, .ran attempt found left ∈ w.trace ∧ view left ≠ view found

def Settled (w : RetryCall ι σ ε T) : Prop := ∃ result, w.place = .settled result

end RetryCall

/-- The attempt that the call is at. -/
def RetryPlace.attempt : RetryPlace ι σ ε T → Option Nat
  | operating k _ => some k
  | lookingUp k _ => some k
  | waiting k => some k
  | settled _ => none

variable [ThrownValue ε] [Truthiness T]

/-- What the call settles to at a note: the value of the operation or an available replay, an
error of the operation that is no conflict, or the error of a lookup. -/
def RetryNote.answer : RetryNote σ ε T → Option (Except ε T)
  | succeeded value => some (.ok value)
  | failed error => if isFinancialTransactionConflict error then none else some (.error error)
  | lookedUp replay => (replay.filter Truthiness.truthy).map .ok
  | lookupFailed error => some (.error error)
  | _ => none

/-! ### What one event does -/

namespace RetryCall

/-- What is awaited has come, and is noted. -/
inductive Resolves : RetryPlace ι σ ε T → Nat → RetryNote σ ε T → Prop
  | succeeded {k : Nat} {value : T} : Resolves (.operating k (.done value)) k (.succeeded value)
  | failed {k : Nat} {error : ε} : Resolves (.operating k (.fail error)) k (.failed error)
  | lookedUp {k : Nat} {replay : Option T} :
      Resolves (.lookingUp k (.done replay)) k (.lookedUp replay)
  | lookupFailed {k : Nat} {error : ε} :
      Resolves (.lookingUp k (.fail error)) k (.lookupFailed error)

/-- The places after an attempt that ended in a conflict, and what is noted on the way there. -/
inductive Pauses (options : FinancialRetryOptions ι σ ε T) (k : Nat) :
    RetryPlace ι σ ε T × List (RetryNote σ ε T) → Prop
  | lookingUp {lookup : Process ι σ ε (Option T)} : Pauses options k (.lookingUp k lookup, [])
  | waiting {delayMs : Option Int} : Pauses options k (.waiting k, [.waited delayMs])
  | exhausted (hk : options.attempts.exceeds k = false) :
      Pauses options k (.settled (.error options.conflict), [])

/-- What an event that is not of others does. -/
inductive Advanced (operation : Process ι σ ε T) (options : FinancialRetryOptions ι σ ε T)
    (w : RetryCall ι σ ε T) : RetryCall ι σ ε T → Prop
  | ran {k : Nat} {β : Type} {st : ι → σ → β × σ} {next : β → Process ι σ ε T} (i : ι)
      (hplace : w.place = .operating k (.act st next)) :
      Advanced operation options w
        ⟨.operating k (next (st i w.state).1), (st i w.state).2,
          w.trace ++ [.ran k w.state (st i w.state).2]⟩
  | looked {k : Nat} {β : Type} {st : ι → σ → β × σ} {next : β → Process ι σ ε (Option T)} (i : ι)
      (hplace : w.place = .lookingUp k (.act st next)) :
      Advanced operation options w
        ⟨.lookingUp k (next (st i w.state).1), (st i w.state).2, w.trace⟩
  | answered {k : Nat} {note : RetryNote σ ε T} {result : Except ε T}
      (hplace : Resolves w.place k note) (hanswer : note.answer = some result) :
      Advanced operation options w ⟨.settled result, w.state, w.trace ++ [note]⟩
  | paused {k : Nat} {note : RetryNote σ ε T} {next : RetryPlace ι σ ε T × List (RetryNote σ ε T)}
      (hplace : Resolves w.place k note) (hanswer : note.answer = none)
      (hnext : Pauses options k next) :
      Advanced operation options w ⟨next.1, w.state, w.trace ++ [note] ++ next.2⟩
  | entered {k : Nat} (hplace : w.place = .waiting k) (hk : options.attempts.atLeast (k + 1)) :
      Advanced operation options w
        ⟨.operating (k + 1) operation, w.state, w.trace ++ [.called (k + 1)]⟩
  | exhausted {k : Nat} (hplace : w.place = .waiting k)
      (hk : options.attempts.atLeast (k + 1) = false) :
      Advanced operation options w ⟨.settled (.error options.conflict), w.state, w.trace⟩
  | settled (hsettled : w.Settled) : Advanced operation options w w

variable {operation : Process ι σ ε T} {options : FinancialRetryOptions ι σ ε T}
  {w : RetryCall ι σ ε T} {s : σ} {view : σ → δ}

lemma afterLookup_pauses {replay : Option T} (h : replay.filter Truthiness.truthy = none)
    (random : Set.Ico (0 : ℚ) 1) (k : Nat) :
    Pauses options k (afterLookup options random k replay) := by
  unfold afterLookup
  rw [h]
  dsimp only
  by_cases hk : options.attempts.exceeds k
  · rw [if_pos hk]
    exact .waiting
  · rw [if_neg hk]
    exact .exhausted (by simpa using hk)

lemma afterFailure_pauses {error : ε} (h : isFinancialTransactionConflict error = true)
    (random : Set.Ico (0 : ℚ) 1) (k : Nat) :
    Pauses options k (afterFailure options random k error) := by
  unfold afterFailure
  rw [if_pos h]
  cases options.onConflict with
  | some lookup => exact .lookingUp
  | none => exact afterLookup_pauses rfl random k

/-- **What one event does.** -/
theorem step_advanced (w : RetryCall ι σ ε T) (i : ι) (random : Set.Ico (0 : ℚ) 1) :
    Advanced operation options w (w.step operation options (.advance i random)) := by
  obtain ⟨place, state, trace⟩ := w
  cases place with
  | operating k rest =>
      cases rest with
      | act st next => exact .ran i rfl
      | done value =>
          have h : Advanced operation options ⟨.operating k (.done value), state, trace⟩
              ⟨.settled (.ok value), state, trace ++ [.succeeded value]⟩ := .answered .succeeded rfl
          simpa [step, goTo] using h
      | fail error =>
          -- only a conflict is tried again
          by_cases hconflict : isFinancialTransactionConflict error
          · exact .paused .failed (by simp [RetryNote.answer, hconflict])
              (afterFailure_pauses hconflict random k)
          · have hanswer : RetryNote.answer (.failed error : RetryNote σ ε T) =
                some (.error error) := by
              simp [RetryNote.answer, hconflict]
            have h : Advanced operation options ⟨.operating k (.fail error), state, trace⟩
                ⟨.settled (.error error), state, trace ++ [.failed error]⟩ :=
              .answered .failed hanswer
            simpa [step, goTo, afterFailure, hconflict] using h
  | lookingUp k rest =>
      cases rest with
      | act st next => exact .looked i rfl
      | done replay =>
          cases hreplay : replay.filter Truthiness.truthy with
          | none =>
              exact .paused .lookedUp (by simp [RetryNote.answer, hreplay])
                (afterLookup_pauses hreplay random k)
          | some value =>
              have hanswer : RetryNote.answer (.lookedUp replay : RetryNote σ ε T) =
                  some (.ok value) := by
                simp [RetryNote.answer, hreplay]
              have h : Advanced operation options ⟨.lookingUp k (.done replay), state, trace⟩
                  ⟨.settled (.ok value), state, trace ++ [.lookedUp replay]⟩ :=
                .answered .lookedUp hanswer
              simpa [step, goTo, afterLookup, hreplay] using h
      | fail error =>
          have h : Advanced operation options ⟨.lookingUp k (.fail error), state, trace⟩
              ⟨.settled (.error error), state, trace ++ [.lookupFailed error]⟩ :=
            .answered .lookupFailed rfl
          simpa [step, goTo] using h
  | waiting k =>
      by_cases hk : options.attempts.atLeast (k + 1)
      · have h : Advanced operation options ⟨.waiting k, state, trace⟩
            ⟨.operating (k + 1) operation, state, trace ++ [.called (k + 1)]⟩ := .entered rfl hk
        simpa [step, goTo, enter, hk] using h
      · have h : Advanced operation options ⟨.waiting k, state, trace⟩
            ⟨.settled (.error options.conflict), state, trace⟩ := .exhausted rfl (by simpa using hk)
        simpa [step, goTo, enter, hk] using h
  | settled result => exact .settled ⟨result, rfl⟩

/-- **The rule for calls**: an invariant that holds at the start and that events keep. -/
theorem run_invariant {events : ℕ → RetryEvent ι σ} {I : RetryCall ι σ ε T → Prop}
    (hstart : I (start operation options s))
    (hadvanced : ∀ w w', Advanced operation options w w' → I w → I w')
    (hothers : ∀ w t, I w → I { w with state := t }) (n : ℕ) :
    I (runWithBoundedFinancialRetries operation options s events n) := by
  refine trajectory_invariant hstart (fun w event hw => ?_) n
  cases event with
  | advance i random => exact hadvanced w _ (step_advanced w i random) hw
  | others t => exact hothers w t hw

/-! ### How often the operation is called -/

omit [ThrownValue ε] [Truthiness T] in
lemma Resolves.attempt {place : RetryPlace ι σ ε T} {k : Nat} {note : RetryNote σ ε T}
    (h : Resolves place k note) : place.attempt = some k ∧ note.isCall = false := by
  cases h <;> exact ⟨rfl, rfl⟩

omit [Truthiness T] in
lemma Pauses.attempt {k : Nat} {next : RetryPlace ι σ ε T × List (RetryNote σ ε T)}
    (h : Pauses options k next) :
    (∀ j, next.1.attempt = some j → j = k) ∧ next.2.countP RetryNote.isCall = 0 := by
  cases h with
  | lookingUp => exact ⟨fun j hj => (Option.some.inj hj).symm, rfl⟩
  | waiting => exact ⟨fun j hj => (Option.some.inj hj).symm, rfl⟩
  | exhausted hk => exact ⟨fun j hj => (nomatch hj), rfl⟩

/-- The operation was called once for each attempt up to the one the call is at. -/
structure Counted (options : FinancialRetryOptions ι σ ε T) (w : RetryCall ι σ ε T) : Prop where
  bounded : (w.calls : ℕ∞) ≤ options.attempts.count
  current : ∀ k, w.place.attempt = some k → w.calls = k

omit [Truthiness T] in
lemma start_counted : Counted options (start operation options s) := by
  unfold start enter
  by_cases h : options.attempts.atLeast 1
  · rw [if_pos h]
    exact ⟨(JsNumber.atLeast_iff Nat.one_pos _).1 h, fun k hk => Option.some.inj hk⟩
  · rw [if_neg h]
    exact ⟨by simp [calls], fun k hk => nomatch hk⟩

lemma Counted.advanced {w' : RetryCall ι σ ε T} (hw : Counted options w)
    (h : Advanced operation options w w') : Counted options w' := by
  have hsame : ∀ w' : RetryCall ι σ ε T, w'.calls = w.calls →
      (∀ k, w'.place.attempt = some k → w.place.attempt = some k) → Counted options w' := by
    intro w' hcalls hattempt
    refine ⟨?_, fun k hk => ?_⟩
    · rw [hcalls]
      exact hw.bounded
    · rw [hcalls]
      exact hw.current k (hattempt k hk)
  cases h with
  | ran i hplace =>
      refine hsame _ (by simp [calls, RetryNote.isCall]) fun k hk => ?_
      rw [hplace]
      exact hk
  | looked i hplace =>
      refine hsame _ rfl fun k hk => ?_
      rw [hplace]
      exact hk
  | answered hplace hanswer =>
      exact hsame _ (by simp [calls, hplace.attempt.2]) fun k hk => nomatch hk
  | paused hplace hanswer hnext =>
      refine hsame _ (by simp [calls, hplace.attempt.2, hnext.attempt.2]) fun k hk => ?_
      rw [hnext.attempt.1 k hk]
      exact hplace.attempt.1
  | @entered k hplace hk =>
      have hcalls : w.calls = k := hw.current k (by rw [hplace]; rfl)
      have hnow : calls ⟨.operating (k + 1) operation, w.state, w.trace ++ [.called (k + 1)]⟩ =
          k + 1 := by
        rw [← hcalls]
        simp [calls, RetryNote.isCall]
      refine ⟨?_, fun j hj => hnow.trans (Option.some.inj hj)⟩
      rw [hnow]
      exact (JsNumber.atLeast_iff (Nat.succ_pos k) _).1 hk
  | exhausted hplace hk => exact hsame _ rfl fun k hk => nomatch hk
  | settled hsettled => exact hw

/-! ### Where the call stops -/

/-- Nothing has answered the call while it goes on; it settles to the answer of its last note, or
gives up. -/
def Answered (options : FinancialRetryOptions ι σ ε T) (w : RetryCall ι σ ε T) : Prop :=
  match w.place with
  | .settled result =>
      (∃ before note, w.trace = before ++ [note] ∧ (∀ n ∈ before, n.answer = none) ∧
        note.answer = some result) ∨
      (result = .error options.conflict ∧ (∀ n ∈ w.trace, n.answer = none) ∧
        options.attempts.atLeast (w.calls + 1) = false)
  | _ => ∀ n ∈ w.trace, n.answer = none

lemma Answered.open (hw : Answered options w) {k : Nat} (hk : w.place.attempt = some k) :
    ∀ n ∈ w.trace, n.answer = none := by
  unfold Answered at hw
  split at hw
  · rename_i result hplace
    rw [hplace] at hk
    cases hk
  · exact hw

lemma answered_of_open {place : RetryPlace ι σ ε T} {t : σ} {trace : List (RetryNote σ ε T)}
    {k : Nat} (hk : place.attempt = some k) (htrace : ∀ n ∈ trace, n.answer = none) :
    Answered options ⟨place, t, trace⟩ := by
  cases place with
  | settled result => cases hk
  | _ => exact htrace

lemma Pauses.answer {k : Nat} {next : RetryPlace ι σ ε T × List (RetryNote σ ε T)}
    (h : Pauses options k next) : ∀ n ∈ next.2, n.answer = none := by
  cases h with
  | waiting => simp [RetryNote.answer]
  | _ => simp

lemma start_answered : Answered options (start operation options s) := by
  unfold start enter
  by_cases h : options.attempts.atLeast 1
  · rw [if_pos h]
    exact answered_of_open rfl (by simp [RetryNote.answer])
  · rw [if_neg h]
    exact .inr ⟨rfl, by simp, by simpa [calls] using h⟩

lemma Answered.advanced {w' : RetryCall ι σ ε T} (hw : Answered options w)
    (hcounted : Counted options w) (h : Advanced operation options w w') : Answered options w' := by
  cases h with
  | ran i hplace =>
      have htrace := hw.open (by rw [hplace]; rfl)
      exact answered_of_open rfl (by simpa [or_imp, forall_and, RetryNote.answer] using htrace)
  | looked i hplace => exact answered_of_open rfl (hw.open (by rw [hplace]; rfl))
  | answered hplace hanswer =>
      exact .inl ⟨w.trace, _, rfl, hw.open hplace.attempt.1, hanswer⟩
  | @paused k note next hplace hanswer hnext =>
      have htrace : ∀ n ∈ w.trace ++ [note] ++ next.2, n.answer = none := by
        intro n hn
        simp only [List.mem_append, List.mem_singleton] at hn
        rcases hn with (hn | rfl) | hn
        · exact hw.open hplace.attempt.1 n hn
        · exact hanswer
        · exact hnext.answer n hn
      cases hnext with
      | lookingUp => exact answered_of_open rfl htrace
      | waiting => exact answered_of_open rfl htrace
      | exhausted hk =>
          refine .inr ⟨rfl, htrace, ?_⟩
          have hcalls : (w.trace ++ [note] ++ []).countP RetryNote.isCall = k := by
            rw [← hcounted.current k hplace.attempt.1]
            simp [calls, hplace.attempt.2]
          unfold calls
          rw [hcalls]
          exact JsNumber.not_atLeast_succ hk
  | @entered k hplace hk =>
      have htrace := hw.open (by rw [hplace]; rfl)
      exact answered_of_open rfl (by simpa [or_imp, forall_and, RetryNote.answer] using htrace)
  | @exhausted k hplace hk =>
      refine .inr ⟨rfl, hw.open (by rw [hplace]; rfl), ?_⟩
      have hcalls : w.calls = k := hcounted.current k (by rw [hplace]; rfl)
      rw [← hcalls] at hk
      exact hk
  | settled hsettled => exact hw

/-- An answer is the last note, and what the call has settled to. -/
lemma Answered.stops (hw : Answered options w) {before after : List (RetryNote σ ε T)}
    {note : RetryNote σ ε T} {result : Except ε T} (htrace : w.trace = before ++ note :: after)
    (hanswer : note.answer = some result) : after = [] ∧ w.place = .settled result := by
  have hmem : note ∈ w.trace := by simp [htrace]
  unfold Answered at hw
  split at hw
  · rename_i result' hplace
    rcases hw with ⟨before', last, hlast, hnone, hresult⟩ | ⟨-, hnone, -⟩
    · rw [htrace] at hlast
      rcases List.eq_nil_or_concat after with rfl | ⟨more, x, rfl⟩
      · obtain ⟨-, rfl⟩ := List.append_singleton_inj.1 hlast
        rw [hanswer] at hresult
        exact ⟨rfl, by rw [hplace, Option.some.inj hresult]⟩
      · -- the note stands before the last one, where nothing answers
        have hbefore : before ++ note :: more = before' := by
          have h : (before ++ note :: more) ++ [x] = before' ++ [last] := by simpa using hlast
          exact (List.append_singleton_inj.1 h).1
        have hnote := hnone note (by simp [← hbefore])
        rw [hanswer] at hnote
        cases hnote
    · rw [hnone note hmem] at hanswer
      cases hanswer
  · rw [hw note hmem] at hanswer
    cases hanswer

/-! ### What is left in the state -/

/-- What was changed is the work of the attempt that goes on, or of the one that succeeded. -/
def Effects (operation : Process ι σ ε T) (view : σ → δ) (w : RetryCall ι σ ε T) : Prop :=
  match w.place with
  | .operating k rest => ∃ met, operation.remaining met = rest ∧
      ∀ j found left, .ran j found left ∈ w.trace → view left ≠ view found →
        j = k ∧ (found, left) ∈ operation.changes met
  | .settled _ => (∀ j, ¬ w.Committed view j) ∨
      ∃ value, w.trace.getLast? = some (.succeeded value) ∧
        ∀ j k, w.Committed view j → w.Committed view k → j = k
  | _ => ∀ j, ¬ w.Committed view j

omit [ThrownValue ε] [Truthiness T] in
/-- Notes of no statement tell of no change. -/
lemma committed_append {place : RetryPlace ι σ ε T} {t : σ} {notes : List (RetryNote σ ε T)}
    {j : Nat} (hnotes : ∀ k found left, .ran k found left ∉ notes) :
    Committed view ⟨place, t, w.trace ++ notes⟩ j ↔ w.Committed view j := by
  unfold Committed
  refine exists_congr fun found => exists_congr fun left => and_congr_left fun _ => ?_
  rw [List.mem_append, or_iff_left (hnotes j found left)]

omit [ThrownValue ε] [Truthiness T] in
lemma Resolves.ne_ran {place : RetryPlace ι σ ε T} {k : Nat} {note : RetryNote σ ε T}
    (h : Resolves place k note) : ∀ j found left, .ran j found left ∉ [note] := by
  cases h <;> simp

omit [Truthiness T] in
lemma Pauses.ne_ran {k : Nat} {next : RetryPlace ι σ ε T × List (RetryNote σ ε T)}
    (h : Pauses options k next) : ∀ j found left, .ran j found left ∉ next.2 := by
  cases h <;> simp

omit [ThrownValue ε] [Truthiness T] in
/-- **Rollback**: when an attempt has failed, or a lookup is over, nothing is left. -/
lemma Effects.undone (hw : Effects operation view w) (hroll : operation.RollsBack view) {k : Nat}
    {note : RetryNote σ ε T} (h : Resolves w.place k note)
    (hnote : ∀ value, note ≠ .succeeded value) (j : Nat) : ¬ w.Committed view j := by
  obtain ⟨place, state, trace⟩ := w
  cases h with
  | succeeded => exact absurd rfl (hnote _)
  | failed =>
      rintro ⟨found, left, hmem, hne⟩
      obtain ⟨met, hmet, hchanges⟩ := hw
      exact hne (hroll met _ hmet _ (hchanges j found left hmem hne).2)
  | lookedUp => exact hw j
  | lookupFailed => exact hw j

omit [Truthiness T] in
lemma start_effects : Effects operation view (start operation options s) := by
  unfold start enter
  by_cases h : options.attempts.atLeast 1
  · rw [if_pos h]
    exact ⟨[], by cases operation <;> rfl, by simp⟩
  · rw [if_neg h]
    exact .inl (by simp [Committed])

omit [ThrownValue ε] [Truthiness T] in
lemma effects_of_undone {place : RetryPlace ι σ ε T} {t : σ} {trace : List (RetryNote σ ε T)}
    (hplace : ∀ k rest, place ≠ .operating k rest)
    (h : ∀ j, ¬ Committed view (⟨place, t, trace⟩ : RetryCall ι σ ε T) j) :
    Effects operation view ⟨place, t, trace⟩ := by
  cases place with
  | operating k rest => exact absurd rfl (hplace k rest)
  | settled result => exact .inl h
  | _ => exact h

lemma Effects.advanced {w' : RetryCall ι σ ε T} (hw : Effects operation view w)
    (hroll : operation.RollsBack view) (h : Advanced operation options w w') :
    Effects operation view w' := by
  obtain ⟨place, state, trace⟩ := w
  cases h with
  | @ran k β st next i hplace =>
      obtain rfl := hplace
      obtain ⟨met, hmet, hchanges⟩ := hw
      obtain ⟨hremaining, hmore⟩ := remaining_snoc hmet i state
      refine ⟨met ++ [(i, state)], hremaining, fun j found left hmem hne => ?_⟩
      rw [hmore]
      rcases List.mem_append.1 hmem with hmem | hmem
      · obtain ⟨rfl, hold⟩ := hchanges j found left hmem hne
        exact ⟨rfl, List.mem_append_left _ hold⟩
      · obtain ⟨rfl, rfl, rfl⟩ := RetryNote.ran.inj (List.mem_singleton.1 hmem)
        exact ⟨rfl, List.mem_append_right _ (List.mem_singleton.2 rfl)⟩
  | looked i hplace =>
      obtain rfl := hplace
      exact hw
  | @answered k note result hplace hanswer =>
      by_cases hnote : ∃ value, note = .succeeded value
      · obtain ⟨value, rfl⟩ := hnote
        refine .inr ⟨value, by simp, fun i j hi hj => ?_⟩
        cases hplace with
        | succeeded =>
            obtain ⟨met, -, hchanges⟩ := hw
            obtain ⟨f, l, hmem, hne⟩ := (committed_append (by simp)).1 hi
            obtain ⟨f', l', hmem', hne'⟩ := (committed_append (by simp)).1 hj
            rw [(hchanges i f l hmem hne).1, (hchanges j f' l' hmem' hne').1]
      · have hundone := hw.undone hroll hplace fun value hvalue => hnote ⟨value, hvalue⟩
        refine effects_of_undone (fun _ _ => nofun) fun j => ?_
        rw [committed_append hplace.ne_ran]
        exact hundone j
  | @paused k note next hplace hanswer hnext =>
      have hundone := hw.undone hroll hplace (by rintro value rfl; cases hanswer)
      have hnotes : ∀ j found left, .ran j found left ∉ [note] ++ next.2 := by
        intro j found left hmem
        rcases List.mem_append.1 hmem with hmem | hmem
        · exact hplace.ne_ran j found left hmem
        · exact hnext.ne_ran j found left hmem
      refine effects_of_undone (by cases hnext <;> simp) fun j => ?_
      rw [List.append_assoc, committed_append hnotes]
      exact hundone j
  | entered hplace hk =>
      obtain rfl := hplace
      refine ⟨[], by cases operation <;> rfl, fun j found left hmem hne => ?_⟩
      exact absurd ⟨found, left, by simpa using hmem, hne⟩ (hw j)
  | exhausted hplace hk =>
      obtain rfl := hplace
      exact .inl hw
  | settled hsettled => exact hw

/-! ### That the call ends -/

/-- After an attempt and its lookup: the call waits, or has settled. -/
def Over (k : Nat) (place : RetryPlace ι σ ε T) : Prop :=
  place = .waiting k ∨ ∃ result, place = .settled result

/-- After an attempt. -/
def Tried (k : Nat) (place : RetryPlace ι σ ε T) : Prop :=
  (∃ lookup, place = .lookingUp k lookup) ∨ Over k place

lemma afterLookup_over (random : Set.Ico (0 : ℚ) 1) (k : Nat) (replay : Option T) :
    Over k (afterLookup options random k replay).1 := by
  unfold afterLookup
  cases replay.filter Truthiness.truthy with
  | some value => exact .inr ⟨_, rfl⟩
  | none =>
      by_cases hk : options.attempts.exceeds k
      · exact .inl (by rw [if_pos hk])
      · exact .inr ⟨_, by rw [if_neg hk]⟩

lemma afterFailure_tried (random : Set.Ico (0 : ℚ) 1) (k : Nat) (error : ε) :
    Tried k (afterFailure options random k error).1 := by
  unfold afterFailure
  by_cases hconflict : isFinancialTransactionConflict error
  · rw [if_pos hconflict]
    cases options.onConflict with
    | some lookup => exact .inl ⟨lookup, rfl⟩
    | none => exact .inr (afterLookup_over random k none)
  · rw [if_neg hconflict]
    exact .inr (.inr ⟨_, rfl⟩)

/-- At some time the call is at a place of a kind. -/
def Comes (operation : Process ι σ ε T) (options : FinancialRetryOptions ι σ ε T) (s : σ)
    (events : ℕ → RetryEvent ι σ) (P : RetryPlace ι σ ε T → Prop) : Prop :=
  ∃ n, P (runWithBoundedFinancialRetries operation options s events n).place

section ends

variable {events : ℕ → RetryEvent ι σ} (hgoes : Recurs RetryEvent.IsAdvance events)

include hgoes

lemma Comes.leaves {place : RetryPlace ι σ ε T} {P : RetryPlace ι σ ε T → Prop}
    (h : Comes operation options s events (· = place))
    (hP : ∀ t trace i random,
      P (step operation options ⟨place, t, trace⟩ (.advance i random)).place) :
    Comes operation options s events P := by
  obtain ⟨n, hn⟩ := h
  have hstay : ∀ w event, ¬ RetryEvent.IsAdvance event → w.place = place →
      (step operation options w event).place = place := by
    intro w event hevent hw
    cases event with
    | advance i random => exact absurd trivial hevent
    | others t => exact hw
  have hleave : ∀ w event, RetryEvent.IsAdvance event → w.place = place →
      P (step operation options w event).place := by
    intro w event hevent hw
    obtain ⟨_, t, trace⟩ := w
    obtain rfl : _ = place := hw
    cases event with
    | advance i random => exact hP t trace i random
    | others t => cases hevent
  obtain ⟨m, -, hm⟩ := hgoes.leaves (fun w : RetryCall ι σ ε T => w.place = place)
    (fun w => P w.place) hstay hleave hn
  exact ⟨m, hm⟩

/-- An attempt ends, since each statement leaves less of it. -/
lemma Comes.tried {k : Nat} {rest : Process ι σ ε T}
    (h : Comes operation options s events (· = .operating k rest)) :
    Comes operation options s events (Tried k) := by
  induction rest with
  | done value => exact h.leaves hgoes fun _ _ _ _ => .inr (.inr ⟨_, rfl⟩)
  | fail error => exact h.leaves hgoes fun _ _ _ random => afterFailure_tried random k error
  | act st next ih =>
      obtain ⟨n, b, hn⟩ : Comes operation options s events
          fun place => ∃ b, place = .operating k (next b) :=
        h.leaves hgoes fun t _ i _ => ⟨(st i t).1, rfl⟩
      exact ih b ⟨n, hn⟩

lemma Comes.lookedUp {k : Nat} {rest : Process ι σ ε (Option T)}
    (h : Comes operation options s events (· = .lookingUp k rest)) :
    Comes operation options s events (Over k) := by
  induction rest with
  | done replay => exact h.leaves hgoes fun _ _ _ random => afterLookup_over random k replay
  | fail error => exact h.leaves hgoes fun _ _ _ _ => .inr ⟨_, rfl⟩
  | act st next ih =>
      obtain ⟨n, b, hn⟩ : Comes operation options s events
          fun place => ∃ b, place = .lookingUp k (next b) :=
        h.leaves hgoes fun t _ i _ => ⟨(st i t).1, rfl⟩
      exact ih b ⟨n, hn⟩

lemma Comes.over {k : Nat} {rest : Process ι σ ε T}
    (h : Comes operation options s events (· = .operating k rest)) :
    Comes operation options s events (Over k) := by
  obtain ⟨n, ⟨lookup, hn⟩ | hn⟩ := h.tried hgoes
  · exact Comes.lookedUp hgoes ⟨n, hn⟩
  · exact ⟨n, hn⟩

lemma Comes.waited {k : Nat} (h : Comes operation options s events (· = .waiting k)) :
    Comes operation options s events fun place =>
      (options.attempts.atLeast (k + 1) ∧ place = .operating (k + 1) operation) ∨
        ∃ result, place = .settled result := by
  refine h.leaves hgoes fun t trace i random => ?_
  by_cases hk : options.attempts.atLeast (k + 1)
  · exact .inl ⟨hk, by simp [step, goTo, enter, hk]⟩
  · exact .inr ⟨.error options.conflict, by simp [step, goTo, enter, hk]⟩

lemma Comes.settled {bound : ℕ} (hbound : options.attempts.count = bound) (left : ℕ) {k : ℕ}
    {rest : Process ι σ ε T} (hleft : bound ≤ k + left)
    (h : Comes operation options s events (· = .operating k rest)) :
    Comes operation options s events fun place => ∃ result, place = .settled result := by
  induction left generalizing k rest with
  | zero =>
      obtain ⟨n, hn | hn⟩ := h.over hgoes
      · obtain ⟨m, ⟨hk, -⟩ | hm⟩ := Comes.waited hgoes ⟨n, hn⟩
        · have hlast := (JsNumber.atLeast_iff (Nat.succ_pos k) _).1 hk
          rw [hbound, Nat.cast_le] at hlast
          omega
        · exact ⟨m, hm⟩
      · exact ⟨n, hn⟩
  | succ left ih =>
      obtain ⟨n, hn | hn⟩ := h.over hgoes
      · obtain ⟨m, ⟨-, hm⟩ | hm⟩ := Comes.waited hgoes ⟨n, hn⟩
        · exact ih (by omega) ⟨m, hm⟩
        · exact ⟨m, hm⟩
      · exact ⟨n, hn⟩

/-- **The call ends** when its number of attempts is finite and each promise it awaits settles. -/
theorem run_settles (hfinite : options.attempts ≠ .infinite false) :
    ∃ n, (runWithBoundedFinancialRetries operation options s events n).Settled := by
  obtain ⟨bound, hbound⟩ := ENat.ne_top_iff_exists.1 (JsNumber.count_ne_top hfinite)
  by_cases h : options.attempts.atLeast 1
  · have hstart : Comes operation options s events (· = .operating 1 operation) :=
      ⟨0, by simp [runWithBoundedFinancialRetries, trajectory, start, enter, h]⟩
    exact hstart.settled hgoes hbound.symm bound (by omega)
  · exact ⟨0, .error options.conflict,
      by simp [runWithBoundedFinancialRetries, trajectory, start, enter, h]⟩

end ends

lemma Advanced.trace {w' : RetryCall ι σ ε T} (h : Advanced operation options w w') :
    w.trace <+: w'.trace := by
  cases h with
  | ran i hplace => exact List.prefix_append _ _
  | answered hplace hanswer => exact List.prefix_append _ _
  | paused hplace hanswer hnext => exact ⟨_, (List.append_assoc _ _ _).symm⟩
  | entered hplace hk => exact List.prefix_append _ _
  | _ => exact List.prefix_refl _

end RetryCall

/-! ### The retries are bounded -/

section bounded

open RetryCall

/-- What the runner promises at any time. -/
structure RetriesBounded (options : FinancialRetryOptions ι σ ε T) (w : RetryCall ι σ ε T) :
    Prop where
  calls : (w.calls : ℕ∞) ≤ options.attempts.count
  success : ∀ before value after, w.trace = before ++ .succeeded value :: after →
    after = [] ∧ w.place = .settled (.ok value)
  replay : ∀ before value after, w.trace = before ++ .lookedUp (some value) :: after →
    Truthiness.truthy value → after = [] ∧ w.place = .settled (.ok value)
  otherError : ∀ before error after, w.trace = before ++ .failed error :: after →
    ¬ isFinancialTransactionConflict error → after = [] ∧ w.place = .settled (.error error)
  /-- The call settles to an answer, or gives up when all attempts are used. -/
  result : ∀ result, w.place = .settled result →
    (∃ note, w.trace.getLast? = some note ∧ note.answer = some result) ∨
      (result = .error options.conflict ∧ (∀ note ∈ w.trace, note.answer = none) ∧
        (w.calls : ℕ∞) = options.attempts.count)

omit [ThrownValue ε] [Truthiness T] in
/-- One attempt at most is committed, and it is the one that the call returns. -/
structure SingleEffect (view : σ → δ) (w : RetryCall ι σ ε T) : Prop where
  single : ∀ j k, w.Committed view j → w.Committed view k → j = k
  returned : ∀ j result, w.Committed view j → w.place = .settled result →
    ∃ value, result = .ok value ∧ w.trace.getLast? = some (.succeeded value)

variable {operation : Process ι σ ε T} {options : FinancialRetryOptions ι σ ε T}
  {w : RetryCall ι σ ε T} {s : σ} {view : σ → δ} {events : ℕ → RetryEvent ι σ}

/-- What events keep of the trace and the place of a call. -/
structure Sound (options : FinancialRetryOptions ι σ ε T) (w : RetryCall ι σ ε T) : Prop where
  counted : Counted options w
  answered : Answered options w

lemma Sound.retriesBounded (hw : Sound options w) : RetriesBounded options w where
  calls := hw.counted.bounded
  success _ _ _ htrace := hw.answered.stops htrace rfl
  replay _ _ _ htrace htruthy := hw.answered.stops htrace (by simp [RetryNote.answer, htruthy])
  otherError _ _ _ htrace hother := hw.answered.stops htrace (by simp [RetryNote.answer, hother])
  result result hplace := by
    obtain ⟨hcounted, hanswered⟩ := hw
    unfold Answered at hanswered
    rw [hplace] at hanswered
    rcases hanswered with ⟨before, note, htrace, -, hnote⟩ | ⟨hresult, hnone, hlast⟩
    · exact .inl ⟨note, by simp [htrace], hnote⟩
    · refine .inr ⟨hresult, hnone, le_antisymm hcounted.bounded ?_⟩
      have hmore : ¬ ((w.calls + 1 : ℕ) : ℕ∞) ≤ options.attempts.count := by
        rw [← JsNumber.atLeast_iff (Nat.succ_pos _), hlast]
        exact Bool.false_ne_true
      rw [not_le] at hmore
      exact ENat.lt_natCast_add_one_iff.1 (by exact_mod_cast hmore)

lemma Answered.singleEffect (hanswered : Answered options w)
    (heffects : Effects operation view w) : SingleEffect view w := by
  unfold Effects at heffects
  split at heffects
  · rename_i k rest hplace
    obtain ⟨met, -, hchanges⟩ := heffects
    refine ⟨fun i j ⟨f, l, hmem, hne⟩ ⟨f', l', hmem', hne'⟩ => ?_, fun _ _ _ hsettled => ?_⟩
    · rw [(hchanges i f l hmem hne).1, (hchanges j f' l' hmem' hne').1]
    · rw [hplace] at hsettled
      cases hsettled
  · rename_i result' hplace
    rcases heffects with hnone | ⟨value, hlast, hsingle⟩
    · exact ⟨fun i _ hi => absurd hi (hnone i), fun i _ hi => absurd hi (hnone i)⟩
    · refine ⟨hsingle, fun j result hj hresult => ⟨value, ?_, hlast⟩⟩
      obtain ⟨before, htrace⟩ := List.getLast?_eq_some_iff.1 hlast
      have hvalue := (hanswered.stops htrace (rfl : RetryNote.answer _ = some (.ok value))).2
      rw [hresult] at hvalue
      exact RetryPlace.settled.inj hvalue
  · exact ⟨fun i _ hi => absurd hi (heffects i), fun i _ hi => absurd hi (heffects i)⟩

lemma run_sound (n : ℕ) :
    Sound options (runWithBoundedFinancialRetries operation options s events n) := by
  refine run_invariant ⟨start_counted, start_answered⟩ ?_ ?_ n
  · intro w w' h hw
    exact ⟨hw.counted.advanced h, hw.answered.advanced hw.counted h⟩
  · intro w t hw
    exact ⟨⟨hw.counted.bounded, hw.counted.current⟩, hw.answered⟩

lemma run_effects (hroll : operation.RollsBack view) (n : ℕ) :
    Effects operation view (runWithBoundedFinancialRetries operation options s events n) :=
  run_invariant start_effects (fun _ _ h hw => hw.advanced hroll h) (fun _ _ hw => hw) n

lemma run_trace {m n : ℕ} (hmn : m ≤ n) :
    (runWithBoundedFinancialRetries operation options s events m).trace <+:
      (runWithBoundedFinancialRetries operation options s events n).trace := by
  induction n, hmn using Nat.le_induction with
  | base => exact List.prefix_refl _
  | succ n hmn ih =>
      refine ih.trans ?_
      change _ <+: (step operation options _ (events n)).trace
      cases events n with
      | advance i random => exact (step_advanced _ i random).trace
      | others t => exact List.prefix_refl _

/-- **Bounded financial retries**: for every operation and all outcomes, the operation is called at
most `attempts` times; the call stops at the first success or available replay and returns it,
and at the first error that is no conflict, which it throws unchanged; where failed attempts roll
back, one attempt at most is committed; and the call ends. -/
theorem financial_retries_bounded (operation : Process ι σ ε T)
    (options : FinancialRetryOptions ι σ ε T) (s : σ) (events : ℕ → RetryEvent ι σ) :
    (∀ n, RetriesBounded options (runWithBoundedFinancialRetries operation options s events n)) ∧
    (∀ m n, m ≤ n → (runWithBoundedFinancialRetries operation options s events m).trace <+:
      (runWithBoundedFinancialRetries operation options s events n).trace) ∧
    (∀ (δ : Type) (view : σ → δ), operation.RollsBack view →
      ∀ n, SingleEffect view (runWithBoundedFinancialRetries operation options s events n)) ∧
    (options.attempts ≠ .infinite false → Recurs RetryEvent.IsAdvance events →
      ∃ n, (runWithBoundedFinancialRetries operation options s events n).Settled) := by
  refine ⟨fun n => (run_sound n).retriesBounded, fun m n hmn => run_trace hmn,
    fun δ view hroll n => ?_, fun hfinite hgoes => run_settles hgoes hfinite⟩
  exact Answered.singleEffect (run_sound n).answered (run_effects hroll n)

end bounded

/-! ### An operation that conflicts once -/

namespace ConflictOnce

instance : Truthiness String := ⟨fun text => text ≠ ""⟩

/-- It commits one effect, counted in the state, and answers as the input says. -/
def operation : Process (Except Fault String) Nat Fault String :=
  attempt fun outcome committed => match outcome with
    | .ok value => (.ok value, committed + 1)
    | .error error => (.error error, committed)

def options : FinancialRetryOptions (Except Fault String) Nat Fault String where
  attempts := .finite ⟨false, 2, 0, by decide⟩
  conflictCode := "REDEMPTION_TRANSACTION_CONFLICT"
  conflictMessage := "Try again"
  jitterMs := some (.finite ⟨false, 0, 0, by decide⟩)
  onConflict := none

def events (n : ℕ) : RetryEvent (Except Fault String) Nat :=
  .advance (if n = 0 then .error .serialization else .ok "ok") ⟨0, by norm_num⟩

lemma rollsBack : operation.RollsBack id := by
  refine rollsBack_attempt fun outcome committed error h => ?_
  cases outcome with
  | ok value => cases h
  | error e => rfl

end ConflictOnce

theorem financial_retries_bounded_conflictOnce :
    let call := runWithBoundedFinancialRetries ConflictOnce.operation ConflictOnce.options 0
      ConflictOnce.events
    (∃ n, (call n).Settled) ∧ (∀ n, SingleEffect id (call n)) ∧ (call 5).calls = 2 ∧
      (call 5).state = 1 := by
  obtain ⟨-, -, hsingle, hends⟩ := financial_retries_bounded ConflictOnce.operation
    ConflictOnce.options 0 ConflictOnce.events
  refine ⟨hends nofun fun n => ⟨n, le_rfl, trivial⟩, hsingle Nat id ConflictOnce.rollsBack, ?_, ?_⟩
  · decide +kernel
  · decide +kernel

end ShopcityLoyalty
