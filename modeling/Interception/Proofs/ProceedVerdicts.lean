import Interception.Proofs.BeforeRuns
import Interception.Proofs.CallSettlement
import Interception.Proofs.DialledCalls
import Interception.Proofs.ObservedNest

/-!
# Verdicts on around advices

While an around advice runs, its frame is the innermost one whenever its own code is in control, and tells
how often the code asked to proceed. Frames of the advices inside come and go in between: whatever runs when
an advice proceeds leaves the frames as it found them, if it returns. So the verdict on an advice is about
its own attempts, at every depth and whatever the advices inside did.

The level around an advice receives an error that names the advice if it asked more than once, or failed
without having asked, and otherwise what the advice returned. The attempts that are rejected run nothing,
whatever there would have been to run.

A panic leaves frames open. An advice that goes on after a panic of what it proceeded to asks on the frame of
another advice, and neither its attempts nor its verdict need be its own then.
-/

namespace Interception

/-- The error with which a level failed. -/
def failure? : CallResult → Option AopError
  | .ok _ => none
  | .error error => some error

/-- What the level around an advice receives if the advice asked to proceed a number of times and returned a
result. -/
structure Receives (label : String) (attempts : Nat) (result received : CallResult) : Prop where
  /-- An advice that asked more than once is blamed, whatever it returned. -/
  repeated : 2 ≤ attempts → received = .error (.proceedMisuse label .repeated (failure? result))
  /-- An advice that failed without having asked is blamed. -/
  unproceeded : attempts = 0 → ∀ error, result = .error error →
    received = .error (.proceedMisuse label .unproceeded (some error))
  /-- Otherwise the level receives what the advice returned. -/
  unchanged : attempts = 1 ∨ attempts = 0 ∧ failure? result = none → received = result

/-- An error that an advice returned is received or is the source of the error that is. -/
theorem Receives.keeps_error {label : String} {attempts : Nat} {error : AopError} {received : CallResult}
    (h : Receives label attempts (.error error) received) : received = .error error ∨
      ∃ misuse, received = .error (.proceedMisuse label misuse (some error)) := by
  match attempts, h with
  | 0, h => exact .inr ⟨_, h.unproceeded rfl error rfl⟩
  | 1, h => exact .inl (h.unchanged (.inl rfl))
  | attempts + 2, h => exact .inr ⟨_, h.repeated (Nat.le_add_left 2 attempts)⟩

/-- The state in which a request is one to proceed. -/
def Steering.asking : Steering → Running → List Running
  | .proceed, running => [running]
  | _, _ => []

/-- The states in which code asks to proceed in a run, in order. -/
def Program.attempts {α : Type} (dial : Dialler) (goOn : Run Running CallResult) (code : SteeringProgram α) :
    Running → List Running :=
  code.trace (Steering.answer dial goOn) Steering.asking

/-- An attempt to proceed came to nothing: it was answered with an error that names the advice, the journal
tells that it was refused, and at most the log and the frames differ otherwise. No advice ran, and neither did
the target; arguments, cursor and routing scopes are what they were. -/
structure Rejected (label : String) (sequence : Nat) (misuse : Misuse) (asked : Running)
    (ran : Outcome CallResult × Running) : Prop where
  /-- It was answered with an error. -/
  answer : ran.1 = .returned (.error (.proceedMisuse label misuse none))
  /-- Nothing of the call differs but its frames, and the journal gains one entry. -/
  invocation : ran.2.invocation =
    { asked.invocation.record (.refused sequence) with frames := ran.2.invocation.frames }
  /-- Nothing of the surroundings differs but the log. -/
  world : ran.2.world = { asked.world with records := ran.2.world.records }

/-- A run leaves the frames as it found them, if it returns. -/
def Run.LeavesFrames {α : Type} (run : Run Running α) : Prop :=
  ∀ running value later, run running = (.returned value, later) →
    later.invocation.frames = running.invocation.frames

namespace Program

variable {α : Type} {dial : Dialler} {goOn : Run Running CallResult}

/-- If no request disturbs a property, it holds whenever code asks to proceed. -/
theorem forall_mem_attempts {invariant : Running → Prop}
    (hanswer : ∀ request, Run.Keeps invariant (Steering.answer dial goOn request))
    (code : SteeringProgram α) {running : Running} (h : invariant running) :
    ∀ asked ∈ code.attempts dial goOn running, invariant asked := by
  have hasking : ∀ (request : Steering) {running : Running}, invariant running →
      ∀ asked ∈ request.asking running, invariant asked := by
    intro request running h asked hasked
    cases request with
    | proceed =>
      rw [List.mem_singleton.mp hasked]
      exact h
    | _ => cases hasked
  have hreading : ∀ {β : Type} {run : Run Running β} {listed : β → Running → List Running},
      Run.Keeps invariant run →
      (∀ reply later, invariant later → ∀ asked ∈ listed reply later, invariant asked) →
      ∀ {running}, invariant running → ∀ asked ∈ run.reading [] listed running, invariant asked := by
    intro β run listed hrun hlisted running h asked hasked
    have hlater := hrun running h
    unfold Run.reading at hasked
    split at hasked
    · next heq =>
      rw [heq] at hlater
      exact hlisted _ _ hlater asked hasked
    · exact absurd hasked List.not_mem_nil
  induction code generalizing running with
  | done value => exact fun _ hasked => absurd hasked List.not_mem_nil
  | panic message => exact fun _ hasked => absurd hasked List.not_mem_nil
  | ask request next ih =>
    refine fun asked hasked => (List.mem_append.mp hasked).elim (hasking request h asked) fun hasked => ?_
    exact hreading (hanswer request) (fun reply _ => ih reply) h asked hasked
  | attempt request next ih =>
    refine fun asked hasked => (List.mem_append.mp hasked).elim (hasking request h asked) fun hasked => ?_
    exact hreading (hanswer request).attempt (fun reply _ => ih reply) h asked hasked

end Program

/-- Code makes the same requests without guards if nothing panics then that they are for. -/
theorem SteeringProgram.trace_unguarded {σ α ε : Type}
    {answer answer' : (request : Steering) → Run σ request.Answer}
    (hproceed : (answer .proceed).Matches (answer' .proceed))
    (hother : ∀ request, request ≠ .proceed → answer request = answer' request)
    (during : Steering → σ → List ε) (program : SteeringProgram α) {s : σ}
    (hcalm : ∀ message, ((unguarded program).run answer' s).1 ≠ .panicked message) :
    program.trace answer during s = (unguarded program).trace answer' during s := by
  have hanswer : ∀ request {s}, (∀ message, (answer' request s).1 ≠ .panicked message) →
      answer request s = answer' request s := by
    intro request s hcalm
    by_cases hrequest : request = .proceed
    · exact hrequest ▸ hproceed s (hrequest ▸ hcalm)
    · rw [hother request hrequest]
  induction program generalizing s with
  | done value => rfl
  | panic message => rfl
  | ask request next ih =>
    have hasked := hanswer request (Run.not_panicked_of_bind hcalm)
    simp only [unguarded, Program.trace, Run.reading, hasked]
    cases hran : answer' request s with
    | mk outcome later =>
      cases outcome with
      | returned reply =>
        exact congrArg _ (ih reply (Run.not_panicked_of_returned (fun reply => (unguarded (next reply)).run answer')
          hcalm hran))
      | _ => rfl
  | attempt request next ih =>
    by_cases hrequest : request = .proceed
    · subst hrequest
      have hasked := hanswer .proceed (Run.not_panicked_of_bind hcalm)
      simp only [unguarded, Program.trace, Run.reading, Run.attempt_apply, hasked]
      cases hran : answer' .proceed s with
      | mk outcome later =>
        cases outcome with
        | returned reply =>
          exact congrArg _ (ih (.ok reply) (Run.not_panicked_of_returned
            (fun reply => (unguarded (next (.ok reply))).run answer') hcalm hran))
        | panicked message => exact absurd (congrArg Prod.fst hran) (Run.not_panicked_of_bind hcalm message)
        | exhausted => rfl
    · rw [unguarded_attempt hrequest] at hcalm ⊢
      simp only [Program.trace, Run.reading, hother request hrequest]
      cases hran : (answer' request).attempt s with
      | mk outcome later =>
        cases outcome with
        | returned reply =>
          exact congrArg _ (ih reply (Run.not_panicked_of_returned
            (fun reply => (unguarded (next reply)).run answer') hcalm hran))
        | _ => rfl

namespace Running

/-- The call in which the around advice at the cursor has just been entered. -/
def entering (running : Running) (step : Step AroundBody) : Running :=
  (running.mapInvocation fun invocation => { invocation with cursor := invocation.cursor + 1 }).opening step

/-- The call in which the nest begins, after its before advices. -/
def nesting (running : Running) : Running :=
  (running.mapInvocation (·.enterPhase .beforeDone)).mapInvocation (·.enterPhase .aroundNestRunning)

section

variable {α : Type} {dial : Dialler} {next : Run Running CallResult} {step : Step AroundBody}
  {outer : List Frame} {uses : Nat} {running later : Running}

/-- The innermost frame tells how often an around advice asked to proceed. -/
def HasAsked (step : Step AroundBody) (outer : List Frame) (uses : Nat) (running : Running) : Prop :=
  running.invocation.frames = OneShot.frameOf step uses :: outer

/-- An advice that asked before is rejected, whatever there would be to run. -/
theorem rejected_of_hasAsked (h : running.HasAsked step outer (uses + 1)) (next : Run Running CallResult) :
    Rejected step.label step.sequence .repeated running (proceed next running) := by
  have hproceeded : (OneShot.frameOf step (uses + 1)).proceeded = true := decide_eq_true (Nat.succ_pos uses)
  unfold proceed
  rw [h]
  simp only [hproceeded]
  exact ⟨rfl, rfl, rfl⟩

/-- An advice that did not ask before proceeds. -/
theorem proceed_of_hasAsked (h : running.HasAsked step outer 0) (next : Run Running CallResult) :
    proceed next running = next (running.granting step outer) := by
  unfold proceed
  rw [h]
  rfl

/-- Asking to proceed is counted in the frame of the advice that asks. -/
theorem hasAsked_proceed (hnext : next.LeavesFrames) {result : CallResult}
    (h : running.HasAsked step outer uses) (hran : proceed next running = (.returned result, later)) :
    later.HasAsked step outer (uses + 1) := by
  unfold proceed at hran
  rw [h] at hran
  cases uses with
  | zero =>
    exact hnext _ _ _ hran
  | succ uses =>
    have hproceeded : (OneShot.frameOf step (uses + 1)).proceeded = true :=
      decide_eq_true (Nat.succ_pos uses)
    simp only [hproceeded] at hran
    cases hran
    simp [HasAsked, log, mapInvocation, OneShot.frameOf]

/-- Other requests do not touch the frame of an advice, even if they panic. -/
theorem hasAsked_undisturbed (goOn : Run Running CallResult) {request : Steering} (hrequest : request ≠ .proceed)
    (h : running.HasAsked step outer uses) :
    (Steering.answer dial goOn request running).2.HasAsked step outer uses := by
  obtain ⟨_, hinvocation⟩ := undisturbed_answer dial goOn hrequest running
  have hframes : (Steering.answer dial goOn request running).2.invocation.frames = running.invocation.frames :=
    (congrArg Invocation.frames hinvocation :)
  exact hframes.trans h

/-- Only a request to proceed is one. -/
theorem asking_of_ne {request : Steering} (h : request ≠ .proceed) (running : Running) :
    request.asking running = [] := by
  cases request with
  | proceed => exact absurd rfl h
  | _ => rfl

/-- The frame of an advice counts its requests to proceed and no others. -/
theorem hasAsked_answer (hnext : next.LeavesFrames) {request : Steering} {answer : request.Answer}
    (h : running.HasAsked step outer uses)
    (hran : Steering.answer dial (proceed next) request running = (.returned answer, later)) :
    later.HasAsked step outer (uses + (request.asking running).length) := by
  by_cases hrequest : request = .proceed
  · subst hrequest
    exact hasAsked_proceed hnext h hran
  · have hlater : (Steering.answer dial (proceed next) request running).2.HasAsked step outer uses :=
      hasAsked_undisturbed (proceed next) hrequest h
    rw [hran] at hlater
    rwa [asking_of_ne hrequest]

/-- Whenever the code of an around advice asks to proceed, its frame is the innermost one and tells how often
the code asked before. At the end it tells how often the code asked. The code may not go on after a panic of what
it proceeded to, since the innermost frame is another one then. -/
theorem hasAsked_attempts (hnext : next.LeavesFrames) {code : SteeringProgram α} (hunwinds : code.Unwinds)
    (h : running.HasAsked step outer uses) :
    let attempts := code.attempts dial (proceed next) running
    (∀ (place : Nat) (asked : Running), attempts[place]? = some asked →
      asked.HasAsked step outer (uses + place)) ∧
    ∀ (value : α) (later : Running),
      code.run (Steering.answer dial (proceed next)) running = (.returned value, later) →
      later.HasAsked step outer (uses + attempts.length) := by
  induction hunwinds generalizing running uses with
  | done value =>
    refine ⟨nofun, fun value later hran => ?_⟩
    cases hran
    exact h
  | panic message => exact ⟨nofun, nofun⟩
  | @ask request resume _ ih =>
    have hfirst : ∀ (place : Nat) (asked : Running), (request.asking running)[place]? = some asked →
        asked.HasAsked step outer (uses + place) := by
      intro place asked hasked
      cases request with
      | proceed =>
        cases place with
        | zero =>
          cases hasked
          exact h
        | succ place => cases hasked
      | _ => cases hasked
    simp only [Program.attempts, Program.trace]
    cases hanswer : Steering.answer dial (proceed next) request running with
    | mk outcome between =>
      cases outcome with
      | returned answer =>
        obtain ⟨hasked, hreturned⟩ := ih answer (hasAsked_answer hnext h hanswer)
        rw [Run.reading_of_returned _ _ hanswer, Program.run_ask_of_answer hanswer]
        refine ⟨fun place asked hplace => ?_, fun value later hran => ?_⟩
        · obtain hlt | hle := Nat.lt_or_ge place (request.asking running).length
          · rw [List.getElem?_append_left hlt] at hplace
            exact hfirst place asked hplace
          · rw [List.getElem?_append_right hle] at hplace
            have hlater := hasked _ asked hplace
            rwa [Nat.add_assoc, Nat.add_sub_cancel' hle] at hlater
        · rw [List.length_append, ← Nat.add_assoc]
          exact hreturned value later hran
      | _ =>
        rw [Run.reading_of_not_returned _ _ (by simp [hanswer]), List.append_nil]
        refine ⟨hfirst, fun value later hran => ?_⟩
        obtain ⟨answer, between, hreturned, _⟩ := Run.bind_eq_returned_iff.mp hran
        rw [hanswer] at hreturned
        cases hreturned
  | @attempt request resume hrequest _ ih =>
    -- What is attempted is not to proceed, so the frame is left alone however the attempt ends.
    have hlater : (Steering.answer dial (proceed next) request running).2.HasAsked step outer uses :=
      hasAsked_undisturbed (proceed next) hrequest h
    simp only [Program.attempts, Program.trace, asking_of_ne hrequest, List.nil_append]
    cases hanswer : (Steering.answer dial (proceed next) request).attempt running with
    | mk outcome between =>
      cases outcome with
      | returned reply =>
        rw [Run.attempt_eq_returned_iff.mp hanswer] at hlater
        obtain ⟨hasked, hreturned⟩ := ih reply hlater
        rw [Run.reading_of_returned _ _ hanswer]
        refine ⟨hasked, fun value later hran => ?_⟩
        obtain ⟨reply', between', hreply, hnext'⟩ := Run.bind_eq_returned_iff.mp hran
        rw [hanswer] at hreply
        cases hreply
        exact hreturned value later hnext'
      | _ =>
        rw [Run.reading_of_not_returned _ _ (by simp [hanswer])]
        refine ⟨nofun, fun value later hran => ?_⟩
        obtain ⟨reply, between', hreply, _⟩ := Run.bind_eq_returned_iff.mp hran
        rw [hanswer] at hreply
        cases hreply

/-- The verdict on an advice is given by what its frame tells, and leaves the call as it is. -/
theorem judge_receives (signature : CallSignature) (step : Step AroundBody) (uses : Nat)
    (result : CallResult) (running : Running) :
    ∃ received later,
      judge signature step.label (OneShot.frameOf step uses) result running = (.returned received, later) ∧
      later.invocation = running.invocation ∧ Receives step.label uses result received := by
  rcases uses with _ | _ | uses
  · cases result with
    | ok value =>
      exact ⟨_, _, rfl, rfl, fun h => absurd h (by omega), fun _ _ h => absurd h (by simp), fun _ => rfl⟩
    | error error =>
      refine ⟨_, _, rfl, rfl, fun h => absurd h (by omega), fun _ _ h => ?_, fun h => ?_⟩
      · cases h
        rfl
      · simp [failure?] at h
  · refine ⟨result, running, ?_, rfl, fun h => absurd h (by omega), fun h => absurd h (by omega), fun _ => rfl⟩
    cases result <;> rfl
  · have hmisused : (OneShot.frameOf step (uses + 2)).misused = true := by simp [OneShot.frameOf]
    have hjudge : ∀ running, judge signature step.label (OneShot.frameOf step (uses + 2)) result running =
        (.returned (.error (.proceedMisuse step.label .repeated (failure? result))), running) := by
      intro running
      unfold judge
      rw [if_pos hmisused]
      cases result <;> rfl
    exact ⟨_, running, hjudge running, rfl, fun _ => rfl, fun h => absurd h (by omega),
      fun h => absurd h (by omega)⟩

/-- An around advice that has returned is judged by its attempts, and the frames are as they were before it. -/
theorem runAround_of_returned (hnext : next.LeavesFrames) (hunwinds : step.body.Unwinds) {result : CallResult}
    {returned : Running}
    (hbody : step.body.run (Steering.answer dial (proceed next)) (running.opening step) =
      (.returned result, returned)) :
    ∃ received later, runAround dial next step running = (.returned received, later) ∧
      later.invocation.frames = running.invocation.frames ∧
      Receives step.label (step.body.attempts dial (proceed next) (running.opening step)).length result
        received := by
  have hopened : (running.opening step).HasAsked step running.invocation.frames 0 := rfl
  have hasked := (hasAsked_attempts hnext hunwinds hopened).2 result returned hbody
  rw [Nat.zero_add] at hasked
  let closed := returned.mapInvocation Invocation.closeFrame
  obtain ⟨received, later, hjudge, hinvocation, hreceives⟩ :=
    judge_receives closed.invocation.signature step _ result closed
  have hframe : returned.invocation.frames.headD ⟨step.label, step.sequence, true, false, false⟩ =
      OneShot.frameOf step (step.body.attempts dial (proceed next) (running.opening step)).length := by
    rw [hasked]
    rfl
  refine ⟨received, later, ?_, ?_, hreceives⟩
  · change (step.body.run (Steering.answer dial (proceed next)) >>= _) (running.opening step) = _
    rw [Run.bind_apply, hbody]
    rw [← hframe] at hjudge
    exact hjudge
  · rw [hinvocation]
    exact (congrArg List.tail hasked :)

/-- If an around advice is received from, its code has returned. -/
theorem returned_of_runAround {received : CallResult}
    (h : runAround dial next step running = (.returned received, later)) :
    ∃ result returned, step.body.run (Steering.answer dial (proceed next)) (running.opening step) =
      (.returned result, returned) := by
  change (step.body.run (Steering.answer dial (proceed next)) >>= _) (running.opening step) = _ at h
  obtain ⟨result, returned, hbody, _⟩ := Run.bind_eq_returned_iff.mp h
  exact ⟨result, returned, hbody⟩

/-- Entering the target leaves the frames as they are. -/
theorem callTarget_leavesFrames (dial : Dialler) : (callTarget dial).LeavesFrames := by
  intro running value later hran
  unfold callTarget at hran
  split at hran
  · cases hran
    rfl
  · obtain ⟨_, _, rfl⟩ := Run.inWorld_eq_returned_iff.mp hran
    rfl

/-- The around advice at the cursor is the one that is entered. -/
theorem proceedNext_of_step {arounds : List (Step AroundBody)}
    (hstep : arounds[running.invocation.cursor]? = some step) (bound : Nat) :
    proceedNext dial arounds (bound + 1) running = runAround dial (proceedNext dial arounds bound) step
      (running.mapInvocation fun invocation => { invocation with cursor := invocation.cursor + 1 }) := by
  simp only [proceedNext, hstep]

/-- Running on from the cursor leaves the frames as they are. An advice that is entered opens its own and
closes it, and those that it proceeds to are entered with a smaller bound. -/
theorem proceedNext_leavesFrames (dial : Dialler) {arounds : List (Step AroundBody)}
    (hunwinds : ∀ step ∈ arounds, step.body.Unwinds) (bound : Nat) :
    (proceedNext dial arounds bound).LeavesFrames := by
  induction bound with
  | zero =>
    intro running value later hran
    cases hran
  | succ bound ih =>
    intro running value later hran
    cases hstep : arounds[running.invocation.cursor]? with
    | none =>
      simp only [proceedNext, hstep] at hran
      exact callTarget_leavesFrames dial _ _ _ hran
    | some step =>
      rw [proceedNext_of_step hstep] at hran
      obtain ⟨result, returned, hbody⟩ := returned_of_runAround hran
      obtain ⟨_, _, hran', hframes, _⟩ :=
        runAround_of_returned ih (hunwinds step (List.mem_of_getElem? hstep)) hbody
      rw [hran] at hran'
      cases hran'
      exact hframes

/-- What becomes of an around advice that is entered at the cursor, and of its attempts to proceed. -/
structure IsJudged (dial : Dialler) (arounds : List (Step AroundBody)) (bound : Nat) (running : Running)
    (step : Step AroundBody) : Prop where
  /-- If its code returns, it is received what that and its attempts tell, and an error that it returned is received
  or is the source of the error that is. -/
  received : ∀ result returned,
    step.body.run (Steering.answer dial (proceed (proceedNext dial arounds bound))) (running.entering step) =
      (.returned result, returned) →
    ∃ received later, proceedNext dial arounds (bound + 1) running = (.returned received, later) ∧
      Receives step.label (step.body.attempts dial (proceed (proceedNext dial arounds bound))
        (running.entering step)).length result received ∧
      ∀ error, result = .error error → received = .error error ∨
        ∃ misuse, received = .error (.proceedMisuse step.label misuse (some error))
  /-- Only if its code returns anything is received. -/
  returned : ∀ received later, proceedNext dial arounds (bound + 1) running = (.returned received, later) →
    ∃ result returned, step.body.run (Steering.answer dial (proceed (proceedNext dial arounds bound)))
      (running.entering step) = (.returned result, returned)
  /-- The first attempt proceeds. -/
  granted : ∀ asked ∈ (step.body.attempts dial (proceed (proceedNext dial arounds bound))
      (running.entering step)).head?,
    ∀ next, proceed next asked = next (asked.granting step running.invocation.frames)
  /-- Every other attempt is rejected. -/
  rejected : ∀ asked ∈ (step.body.attempts dial (proceed (proceedNext dial arounds bound))
      (running.entering step)).tail,
    ∀ next, Rejected step.label step.sequence .repeated asked (proceed next asked)

/-- In a nest without guards every advice is judged. -/
theorem isJudged_of_unwinds {arounds : List (Step AroundBody)} (hunwinds : ∀ step ∈ arounds, step.body.Unwinds)
    (bound : Nat) (hstep : arounds[running.invocation.cursor]? = some step) :
    IsJudged dial arounds bound running step := by
  have hinner := proceedNext_leavesFrames dial hunwinds bound
  have hbodyUnwinds := hunwinds step (List.mem_of_getElem? hstep)
  have hopened : (running.entering step).HasAsked step running.invocation.frames 0 := rfl
  have hnext : proceedNext dial arounds (bound + 1) running = _ := proceedNext_of_step hstep bound
  refine ⟨fun result returned hbody => ?_, fun received later hran => ?_, fun asked hasked next => ?_,
    fun asked hasked next => ?_⟩
  · obtain ⟨received, later, hran, _, hreceives⟩ := runAround_of_returned hinner hbodyUnwinds hbody
    exact ⟨received, later, hnext.trans hran, hreceives, fun error herror => (herror ▸ hreceives).keeps_error⟩
  · exact returned_of_runAround (hnext.symm.trans hran)
  · have hplace := List.head?_eq_getElem?.symm.trans hasked
    exact proceed_of_hasAsked ((hasAsked_attempts hinner hbodyUnwinds hopened).1 0 asked hplace) next
  · obtain ⟨place, hplace⟩ := List.mem_iff_getElem?.mp hasked
    rw [List.getElem?_tail] at hplace
    have hlater := (hasAsked_attempts hinner hbodyUnwinds hopened).1 (place + 1) asked hplace
    rw [Nat.zero_add] at hlater
    exact rejected_of_hasAsked hlater next

/-- In a nest through which panics are let, every advice is judged. -/
theorem isJudged {arounds : List (Step AroundBody)} {bound : Nat}
    (hlets : running.LetsThroughFrom dial arounds (bound + 1))
    (hstep : arounds[running.invocation.cursor]? = some step) : IsJudged dial arounds bound running step := by
  obtain hunwinds | hcalm := hlets
  · exact isJudged_of_unwinds hunwinds bound hstep
  · -- Without guards nothing is different, since nothing panics that they would be for.
    have hstep' : (arounds.map Step.unguarded)[running.invocation.cursor]? = some step.unguarded := by
      rw [List.getElem?_map, hstep]
      rfl
    have hjudged : IsJudged dial (arounds.map Step.unguarded) bound running step.unguarded :=
      isJudged_of_unwinds (Step.unwinds_unguarded arounds) bound hstep'
    have hsame := proceedNext_matches arounds (bound + 1) running hcalm
    rw [proceedNext_of_step hstep'] at hcalm
    have hbody : ∀ message, ((SteeringProgram.unguarded step.body).run (Steering.answer dial
        (proceed (proceedNext dial (arounds.map Step.unguarded) bound))) (running.entering step)).1 ≠
          .panicked message := Run.not_panicked_of_bind hcalm
    have hproceed : (proceed (proceedNext dial arounds bound)).Matches
        (proceed (proceedNext dial (arounds.map Step.unguarded) bound)) :=
      proceed_matches (proceedNext_matches arounds bound)
    have hother : ∀ request, request ≠ .proceed →
        Steering.answer dial (proceed (proceedNext dial arounds bound)) request =
          Steering.answer dial (proceed (proceedNext dial (arounds.map Step.unguarded) bound)) request := by
      intro request hrequest
      cases request with
      | proceed => exact absurd rfl hrequest
      | _ => rfl
    have hrun := SteeringProgram.run_matches_unguarded hproceed hother step.body _ hbody
    have hattempts : step.body.attempts dial (proceed (proceedNext dial arounds bound)) (running.entering step) =
        (SteeringProgram.unguarded step.body).attempts dial
          (proceed (proceedNext dial (arounds.map Step.unguarded) bound)) (running.entering step) :=
      SteeringProgram.trace_unguarded hproceed hother Steering.asking step.body hbody
    constructor
    · rw [hrun, hattempts, hsame]
      exact hjudged.received
    · rw [hrun, hsame]
      exact hjudged.returned
    · rw [hattempts]
      exact hjudged.granted
    · rw [hattempts]
      exact hjudged.rejected

/-- A before advice is rejected whenever it asks to proceed. -/
theorem rejected_of_before (dial : Dialler) (step : Step BeforeBody) (running : Running) :
    ∀ asked ∈ step.body.attempts dial (proceed Run.exhausted) (running.mapInvocation
        (·.openFrame .before ⟨step.label, step.sequence, false, false, false⟩)),
      ∀ next, Rejected step.label step.sequence .notAround asked (proceed next asked) := by
  have hopened : InBefore step running.invocation (running.mapInvocation
      (·.openFrame .before ⟨step.label, step.sequence, false, false, false⟩)) :=
    ⟨running.invocation.arguments, 0, by
      simp [mapInvocation, Invocation.openFrame, Invocation.record, Invocation.afterBefores, beforeEntries]⟩
  intro asked hasked next
  obtain ⟨arguments, refusals, hinvocation⟩ := Program.forall_mem_attempts
    (answer_keeps_inBefore dial Run.exhausted step running.invocation) step.body hopened asked hasked
  have hframes : asked.invocation.frames =
      ⟨step.label, step.sequence, false, false, false⟩ :: running.invocation.frames := by
    rw [hinvocation]
    rfl
  unfold proceed
  rw [hframes]
  exact ⟨rfl, rfl, rfl⟩

end

end Running

namespace Chain

/-- All steps run in order, each from where the one before left the call, and give good answers. -/
inductive AllAnswer {Body R : Type} (run : Step Body → Run Running (Except AopError R)) (good : R → Prop) :
    List (Step Body) → Running → Running → Prop where
  /-- No step is left. -/
  | done {running : Running} : AllAnswer run good [] running running
  /-- The step gives a good answer, and so do the others after it. -/
  | next {step : Step Body} {steps : List (Step Body)} {running later last : Running} {answer : R} :
    run step running = (.returned (.ok answer), later) → good answer →
      AllAnswer run good steps later last → AllAnswer run good (step :: steps) running last

variable {dial : Dialler}

/-- After advices that all succeed leave the outcome as it is. -/
theorem AllAnswer.runAfters {good : Unit → Prop} {steps : List (Step AfterBody)} {running last : Running}
    (h : AllAnswer (observing dial .after id) good steps running last) (outcome : CallResult) :
    runAfters dial outcome steps running = (.returned outcome, last) := by
  induction h with
  | done => rfl
  | @next step _ _ _ _ _ hstep _ _ ih =>
    have hran : observe dial .after step.sequence step.body _ = _ := hstep
    rw [Chain.runAfters, Run.bind_apply, hran]
    exact ih

/-- Advices for errors that all let the error pass on leave it as it is. -/
theorem AllAnswer.runAfterThrowings {error : AopError} {steps : List (Step AfterThrowingBody)}
    {running last : Running}
    (h : AllAnswer (observing dial .afterThrowing (· error)) (· = .rethrow) steps running last) :
    runAfterThrowings dial error none steps running = (.returned (.error error), last) := by
  induction h with
  | done => rfl
  | @next step _ _ _ _ _ hstep hgood _ ih =>
    subst hgood
    have hran : observe dial .afterThrowing step.sequence (step.body error) _ = _ := hstep
    rw [Chain.runAfterThrowings, Run.bind_apply, hran]
    exact ih

/-- An error that the nest gave back is the result of the call if all after advices succeed and all advices
for errors let it pass on. -/
theorem execute_of_error {chain : Chain} {signature : CallSignature} {arguments : Arguments}
    {terminal : Terminal} {world : World} {error : AopError} {reached unwound ended : Running}
    (hinner : chain.runInner dial (start signature arguments terminal world) =
      (.returned (.error error), reached))
    (hafters : AllAnswer (observing dial .after id) (fun _ => True) chain.afters
      (reached.mapInvocation (·.enterPhase .unwinding)) unwound)
    (hthrowings : AllAnswer (observing dial .afterThrowing (· error)) (· = .rethrow) chain.afterThrowings
      (unwound.mapInvocation (·.enterPhase .afterThrowing)) ended) :
    (chain.execute dial signature arguments terminal world).1 = .returned (.error error) := by
  have hending : chain.runEnding dial (.error error) unwound = (.returned (.error error), ended) :=
    hthrowings.runAfterThrowings
  have hphases : chain.runPhases dial (start signature arguments terminal world) =
      (.returned (.error error), ended.mapInvocation (·.enterPhase .completed)) := by
    rw [runPhases, Run.bind_apply, hinner]
    change (Chain.runAfters dial (.error error) chain.afters >>= _)
      (reached.mapInvocation (·.enterPhase .unwinding)) = _
    rw [Run.bind_apply, hafters.runAfters]
    change (chain.runEnding dial (.error error) >>= _) unwound = _
    rw [Run.bind_apply, hending]
    rfl
  rw [execute, hphases]

/-- The nest of a call whose before advices all succeeded gives back what is received from the outermost
around advice. -/
theorem runInner_of_outermost {chain : Chain} {step : Step AroundBody} {inner : List (Step AroundBody)}
    (harounds : chain.arounds = step :: inner) {signature : CallSignature} {arguments : Arguments}
    {terminal : Terminal} {world : World} {ready : Running}
    (hbefores : runBefores dial chain.befores (start signature arguments terminal world) =
      (.returned (.ok ()), ready)) :
    chain.runInner dial (start signature arguments terminal world) =
      Running.proceedNext dial chain.arounds (chain.arounds.length + 1) ready.nesting ∧
    chain.arounds[ready.nesting.invocation.cursor]? = some step := by
  obtain ⟨_, _, _, _, hinvocation, _⟩ :=
    runBefores_invocation dial chain.befores (start signature arguments terminal world)
  rw [hbefores] at hinvocation
  have hcursor : ready.nesting.invocation.cursor = 0 := (congrArg Invocation.cursor hinvocation :)
  refine ⟨?_, by rw [hcursor, harounds]; rfl⟩
  rw [runInner, Run.bind_apply, hbefores]
  rfl

/-- Where a nest begins whose call lets panics through, the nest does. -/
theorem LetsThrough.nesting {chain : Chain} {start ready : Running} (h : chain.LetsThrough dial start)
    (hbefores : runBefores dial chain.befores start = (.returned (.ok ()), ready)) :
    ready.nesting.LetsThroughFrom dial chain.arounds (chain.arounds.length + 1) := by
  refine h.imp_right fun hcalm message => ?_
  have hready : runBefores dial chain.unguarded.befores start = (.returned (.ok ()), ready) := hbefores
  have hinner := hcalm message
  rw [runInner, Run.bind_apply, hready] at hinner
  have hlength : chain.unguarded.arounds.length = chain.arounds.length := List.length_map Step.unguarded
  rw [← hlength]
  exact hinner

end Chain

namespace Running

/-- What is received from the around advice that is entered is decided by how often its own code asked to
proceed and by what it returned. It is received exactly if the code returns. The first attempt proceeds, every
other one is rejected, and so are all attempts of before advices. An error that an advice returned is received
or is the source of the error that is. If the outermost around advice of a call asked more than once, all after
advices succeed and all advices for errors let the error pass on, the call ends with the misuse. All of this holds
as long as no around advice goes on after a panic of what it proceeded to. -/
theorem misuse_reported (dial : Dialler) :
    (∀ (arounds : List (Step AroundBody)) (bound : Nat) (running : Running) (step : Step AroundBody),
      running.LetsThroughFrom dial arounds (bound + 1) → arounds[running.invocation.cursor]? = some step →
      IsJudged dial arounds bound running step) ∧
    (∀ (step : Step BeforeBody) (running : Running),
      ∀ asked ∈ step.body.attempts dial (proceed Run.exhausted) (running.mapInvocation
        (·.openFrame .before ⟨step.label, step.sequence, false, false, false⟩)),
      ∀ next, Rejected step.label step.sequence .notAround asked (proceed next asked)) ∧
    ∀ (chain : Chain) (step : Step AroundBody) (inner : List (Step AroundBody)) (signature : CallSignature)
      (arguments : Arguments) (terminal : Terminal) (world : World) (ready returned unwound ended : Running)
      (result : CallResult),
      let start := Chain.start signature arguments terminal world
      let goOn := proceed (proceedNext dial chain.arounds chain.arounds.length)
      let entered := ready.nesting.entering step
      let misuse : AopError := .proceedMisuse step.label .repeated (failure? result)
      chain.arounds = step :: inner → chain.LetsThrough dial start →
      Chain.runBefores dial chain.befores start = (.returned (.ok ()), ready) →
      step.body.run (Steering.answer dial goOn) entered = (.returned result, returned) →
      2 ≤ (step.body.attempts dial goOn entered).length →
      Chain.AllAnswer (Chain.observing dial .after id) (fun _ => True) chain.afters
        ((chain.runInner dial start).2.mapInvocation (·.enterPhase .unwinding)) unwound →
      Chain.AllAnswer (Chain.observing dial .afterThrowing (· misuse)) (· = .rethrow) chain.afterThrowings
        (unwound.mapInvocation (·.enterPhase .afterThrowing)) ended →
      (chain.execute dial signature arguments terminal world).1 = .returned (.error misuse) := by
  refine ⟨fun arounds bound running step => isJudged, rejected_of_before dial, ?_⟩
  intro chain step inner signature arguments terminal world ready returned unwound ended result start goOn
    entered misuse harounds hlets hbefores hbody htwice hafters hthrowings
  obtain ⟨hinner, hstep⟩ := Chain.runInner_of_outermost harounds hbefores
  obtain ⟨received, reached, hran, hreceives, _⟩ :=
    (isJudged (hlets.nesting hbefores) hstep).received result returned hbody
  have hreached : chain.runInner dial start = (.returned (.error misuse), reached) := by
    rw [hinner, hran, hreceives.repeated htwice]
  rw [hreached] at hafters
  exact Chain.execute_of_error hreached hafters hthrowings

/-- An advice that proceeds twice and hides the second answer is blamed, although the advices at the end of
the call succeed. -/
theorem misuse_reported_twice :
    let twice : Step AroundBody := ⟨"twice", 0, do
      let first ← Steering.goOn
      let _ ← Steering.goOn
      pure first⟩
    let chain : Chain :=
      { advices := [], befores := [], arounds := [twice]
        afters := [⟨"audit", 1, pure (.ok ())⟩], afterReturnings := []
        afterThrowings := [⟨"notify", 2, fun _ => pure (.ok .rethrow)⟩] }
    (chain.execute (fun _ => Run.exhausted) ⟨"com.x.Users", "Users", ⟨"save", [], "()"⟩⟩ .empty
      (fun _ => pure (.ok .unit)) .initial).1 =
        .returned (.error (.proceedMisuse "twice" .repeated none)) := by
  intro twice chain
  have hunwinds : ∀ step ∈ chain.arounds, step.body.Unwinds := by
    rintro _ (_ | ⟨_, ⟨⟩⟩)
    exact .ask _ fun _ => .ask _ fun _ => .done _
  exact (misuse_reported fun _ => Run.exhausted).2.2 chain twice [] ⟨"com.x.Users", "Users",
    ⟨"save", [], "()"⟩⟩ .empty (fun _ => pure (.ok .unit)) .initial _ _ _ _ (.ok .unit) rfl (.inl hunwinds) rfl
    (Prod.ext rfl rfl) (Nat.le_refl 2) (.next (Prod.ext rfl rfl) trivial .done)
    (.next (Prod.ext rfl rfl) rfl .done)

/-- An advice that goes on after a panic is not blamed for proceeding twice. The advice inside panicked before it
proceeded, so that the second attempt is granted on the frame that was left open: the target runs, and the call
ends with what it returned. -/
theorem misuse_unreported_after_panic :
    let guarded : Step AroundBody := ⟨"retry", 0, .attempt .proceed fun _ => .ask .proceed .done⟩
    let broken : Step AroundBody := ⟨"cache", 1, .panic "cold"⟩
    let chain : Chain :=
      { advices := [], befores := [], arounds := [guarded, broken], afters := [], afterReturnings := []
        afterThrowings := [] }
    let dial : Dialler := fun _ => Run.exhausted
    let call : CallSignature := ⟨"com.x.Users", "Users", ⟨"save", [], "()"⟩⟩
    let terminal : Terminal := fun _ => pure (.ok .unit)
    let entered := (Chain.start call .empty terminal .initial).nesting.entering guarded
    (guarded.body.attempts dial (proceed (proceedNext dial chain.arounds 2)) entered).length = 2 ∧
      (chain.execute dial call .empty terminal .initial).1 = .returned (.ok .unit) := by
  intro guarded broken chain dial call terminal entered
  exact ⟨rfl, rfl⟩

end Running

end Interception
