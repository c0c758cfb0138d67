import Interception.Proofs.OneShotNest
import Interception.Proofs.Proceedings

/-!
# Guards against panics

An around advice may guard itself against panics of what it proceeds to. Without its guards it lets them through,
and then no advice finds frames that were left open. Guards do not matter to a nest as long as nothing panics that
they are for: if the nest without them does not panic, it is run as it is with them, on the shared invocation as
well as with one-shot continuations.
-/

namespace Interception

variable {σ α β : Type}

/-- Where the second run does not panic, the first one is the same. -/
def Run.Matches (run run' : Run σ α) : Prop :=
  ∀ s, (∀ message, (run' s).1 ≠ .panicked message) → run s = run' s

/-- Where two runs one after the other do not panic, the first of them does not. -/
theorem Run.not_panicked_of_bind {first : Run σ α} {next : α → Run σ β} {s : σ}
    (h : ∀ message, ((first >>= next) s).1 ≠ .panicked message) (message : String) :
    (first s).1 ≠ .panicked message := by
  rw [Run.bind_apply] at h
  generalize first s = ran at h
  obtain ⟨outcome, later⟩ := ran
  rintro rfl
  exact h message rfl

/-- Where two runs one after the other do not panic, the second of them does not. -/
theorem Run.not_panicked_of_returned {first : Run σ α} (next : α → Run σ β) {s later : σ} {value : α}
    (h : ∀ message, ((first >>= next) s).1 ≠ .panicked message) (hran : first s = (.returned value, later))
    (message : String) : (next value later).1 ≠ .panicked message := by
  have hnext := h message
  rwa [Run.bind_apply, hran] at hnext

/-- Where a run does not panic, it does not matter that it would return after a panic as well. -/
theorem Run.attempt_bind_of_not_panicked {run : Run σ α} {s : σ} (h : ∀ message, (run s).1 ≠ .panicked message)
    (next : Except String α → Run σ β) : (run.attempt >>= next) s = (run >>= fun value => next (.ok value)) s := by
  rw [Run.bind_apply, Run.bind_apply, Run.attempt_apply]
  generalize run s = ran at h
  obtain ⟨outcome, later⟩ := ran
  cases outcome with
  | returned value => rfl
  | panicked message => exact absurd rfl (h message)
  | exhausted => rfl

namespace Run.Matches

/-- A run is the same as itself. -/
theorem refl (run : Run σ α) : run.Matches run := fun _ _ => rfl

/-- Runs one after the other are the same if each of them is. -/
theorem bind {first first' : Run σ α} {next next' : α → Run σ β} (h : first.Matches first')
    (hnext : ∀ value, (next value).Matches (next' value)) : (first >>= next).Matches (first' >>= next') := by
  intro s hcalm
  have hfirst : first s = first' s := h s (Run.not_panicked_of_bind hcalm)
  rw [Run.bind_apply] at hcalm
  rw [Run.bind_apply, Run.bind_apply, hfirst]
  generalize first' s = ran at hcalm
  obtain ⟨outcome, later⟩ := ran
  cases outcome with
  | returned value => exact hnext value later hcalm
  | panicked message => rfl
  | exhausted => rfl

end Run.Matches

namespace SteeringProgram

/-- The advice without guards against panics of what it proceeds to. -/
def unguarded : SteeringProgram α → SteeringProgram α
  | .done value => .done value
  | .panic message => .panic message
  | .ask request next => .ask request fun reply => unguarded (next reply)
  | .attempt .proceed next => .ask .proceed fun reply => unguarded (next (.ok reply))
  | .attempt request next => .attempt request fun reply => unguarded (next reply)

/-- Only what an advice proceeds to has guards to lose. -/
theorem unguarded_attempt {request : Steering} (h : request ≠ .proceed)
    (next : Except String request.Answer → SteeringProgram α) :
    unguarded (.attempt request next) = .attempt request fun reply => unguarded (next reply) := by
  cases request with
  | proceed => exact absurd rfl h
  | _ => rfl

/-- Without guards the advice never goes on after a panic of what it proceeds to. -/
theorem unwinds_unguarded (program : SteeringProgram α) : (unguarded program).Unwinds := by
  induction program with
  | done value => exact .done value
  | panic message => exact .panic message
  | ask request next ih => exact .ask request ih
  | attempt request next ih =>
    by_cases hrequest : request = .proceed
    · subst hrequest
      exact .ask .proceed fun reply => ih (.ok reply)
    · rw [unguarded_attempt hrequest]
      exact .attempt hrequest ih

/-- The advice runs as it does without guards if nothing panics then that they are for. -/
theorem run_matches_unguarded {answer answer' : (request : Steering) → Run σ request.Answer}
    (hproceed : (answer .proceed).Matches (answer' .proceed))
    (hother : ∀ request, request ≠ .proceed → answer request = answer' request) (program : SteeringProgram α) :
    (program.run answer).Matches ((unguarded program).run answer') := by
  have hanswer : ∀ request, (answer request).Matches (answer' request) := by
    intro request
    by_cases hrequest : request = .proceed
    · exact hrequest ▸ hproceed
    · exact hother request hrequest ▸ .refl _
  induction program with
  | done value => exact .refl _
  | panic message => exact .refl _
  | ask request next ih => exact (hanswer request).bind ih
  | attempt request next ih =>
    by_cases hrequest : request = .proceed
    · subst hrequest
      intro s hcalm
      have hasked := (hanswer .proceed).bind (fun reply => ih (.ok reply)) s hcalm
      have hreturned : ∀ message, (answer .proceed s).1 ≠ .panicked message := by
        have hreturned' := Run.not_panicked_of_bind hcalm
        rwa [hanswer .proceed s hreturned']
      exact (Run.attempt_bind_of_not_panicked hreturned _).trans hasked
    · rw [unguarded_attempt hrequest]
      have hsame : (answer request).attempt.Matches (answer' request).attempt := hother request hrequest ▸ .refl _
      exact hsame.bind ih

end SteeringProgram

/-- The advice without guards against panics of what it proceeds to. -/
def Step.unguarded (step : Step AroundBody) : Step AroundBody :=
  { step with body := SteeringProgram.unguarded step.body }

/-- The chain without guards of its around advices against panics of what they proceed to. -/
def Chain.unguarded (chain : Chain) : Chain := { chain with arounds := chain.arounds.map Step.unguarded }

/-- No around advice of a nest goes on after a panic of what it proceeded to: none has guards against that, or
nothing panics that they would be for. -/
def Running.LetsThrough (dial : Dialler) (arounds : List (Step AroundBody)) (running : Running) : Prop :=
  (∀ step ∈ arounds, step.body.Unwinds) ∨
    ∀ message, (runNest dial (arounds.map Step.unguarded) running).1 ≠ .panicked message

/-- No around advice of a nest goes on after a panic of what it proceeded to, from the cursor on. -/
def Running.LetsThroughFrom (dial : Dialler) (arounds : List (Step AroundBody)) (bound : Nat) (running : Running) :
    Prop :=
  (∀ step ∈ arounds, step.body.Unwinds) ∨
    ∀ message, (proceedNext dial (arounds.map Step.unguarded) bound running).1 ≠ .panicked message

/-- No around advice of a call goes on after a panic of what it proceeded to: none has guards against that, or
nothing panics that they would be for. -/
def Chain.LetsThrough (chain : Chain) (dial : Dialler) (running : Running) : Prop :=
  (∀ step ∈ chain.arounds, step.body.Unwinds) ∨
    ∀ message, (chain.unguarded.runInner dial running).1 ≠ .panicked message

/-- Without guards no around advice goes on after a panic of what it proceeded to. -/
theorem Step.unwinds_unguarded (arounds : List (Step AroundBody)) :
    ∀ step ∈ arounds.map Step.unguarded, step.body.Unwinds := by
  intro step hstep
  obtain ⟨guarded, -, rfl⟩ := List.mem_map.mp hstep
  exact SteeringProgram.unwinds_unguarded guarded.body

namespace Running

variable {dial : Dialler} {next next' : Run Running CallResult}

/-- Proceeding is the same if what an advice proceeds to is. -/
theorem proceed_matches (h : next.Matches next') : (proceed next).Matches (proceed next') := by
  intro running hcalm
  rw [proceed_eq] at hcalm ⊢
  rw [proceed_eq next']
  cases hgranted : running.granted? with
  | none => rfl
  | some granted =>
    rw [hgranted] at hcalm
    exact h granted hcalm

/-- An around advice is run as it is without guards, if what it proceeds to is. -/
theorem runAround_matches (h : next.Matches next') (step : Step AroundBody) :
    (runAround dial next step).Matches (runAround dial next' step.unguarded) := by
  have hbody : (step.body.run (Steering.answer dial (proceed next))).Matches
      ((SteeringProgram.unguarded step.body).run (Steering.answer dial (proceed next'))) :=
    SteeringProgram.run_matches_unguarded (proceed_matches h) (fun request hrequest => by
      cases request with
      | proceed => exact absurd rfl hrequest
      | _ => rfl) step.body
  exact Run.Matches.bind (.refl _) fun _ => hbody.bind fun result => .refl _

/-- The nest is run as it is without guards, from the cursor on. -/
theorem proceedNext_matches (arounds : List (Step AroundBody)) (bound : Nat) :
    (proceedNext dial arounds bound).Matches (proceedNext dial (arounds.map Step.unguarded) bound) := by
  induction bound with
  | zero => exact .refl _
  | succ bound ih =>
    intro running hcalm
    unfold proceedNext at hcalm ⊢
    rw [List.getElem?_map] at hcalm ⊢
    cases harounds : arounds[running.invocation.cursor]? with
    | none => rfl
    | some step =>
      rw [harounds] at hcalm
      exact runAround_matches ih step _ hcalm

/-- The nest is run as it is without guards. -/
theorem runNest_matches (arounds : List (Step AroundBody)) :
    (runNest dial arounds).Matches (runNest dial (arounds.map Step.unguarded)) := by
  unfold runNest
  rw [List.length_map]
  exact .bind (.refl _) fun _ => proceedNext_matches arounds _

end Running

namespace OneShot

variable {dial : Dialler} {rest rest' : Run CallState CallResult}

/-- Using the continuation is the same if the continuation is. -/
theorem useRest_matches (h : rest.Matches rest') (step : Step AroundBody) :
    (useRest step rest).Matches (useRest step rest') := by
  intro level hcalm
  unfold useRest at hcalm ⊢
  split
  · next huses =>
    rw [if_pos huses] at hcalm
    rw [h _ hcalm]
  · rfl

/-- The nest of one-shot continuations is run as it is without guards. -/
theorem nest_matches (terminal : Terminal) (arounds : List (Step AroundBody)) :
    (nest dial terminal arounds).Matches (nest dial terminal (arounds.map Step.unguarded)) := by
  induction arounds with
  | nil => exact .refl _
  | cons step inner ih =>
    intro state hcalm
    have hbody : (step.body.run (answer dial step (nest dial terminal inner))).Matches
        ((SteeringProgram.unguarded step.body).run
          (answer dial step (nest dial terminal (inner.map Step.unguarded)))) :=
      SteeringProgram.run_matches_unguarded (useRest_matches ih step) (fun request hrequest => by
        cases request with
        | proceed => exact absurd rfl hrequest
        | _ => rfl) step.body
    -- A panic of the advice is a panic of its level.
    refine congrArg (settleLevel step) (hbody ⟨state.enterAround step, 0⟩ fun message hpanicked => ?_)
    have hlevel : (settleLevel step ((SteeringProgram.unguarded step.body).run
        (answer dial step (nest dial terminal (inner.map Step.unguarded))) ⟨state.enterAround step, 0⟩)).1 ≠
          .panicked message := hcalm message
    generalize (SteeringProgram.unguarded step.body).run _ _ = ran at hpanicked hlevel
    obtain ⟨outcome, level⟩ := ran
    obtain rfl : outcome = .panicked message := hpanicked
    exact hlevel rfl

end OneShot

end Interception
