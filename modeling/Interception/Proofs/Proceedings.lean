import Interception.Invocation.Nest
import Interception.Proofs.CallCompletion
import Interception.Proofs.ProgramRuns

/-!
# When code proceeds

What code of an advice does until it first proceeds depends neither on what it proceeds to nor on the
target, since it can see neither. Until then, and again afterwards until it proceeds once more, it changes
nothing of a call but the arguments and the surroundings. So code that proceeds once falls into a part
before and a part after that, and everything else happens in between. Before advices, which may not proceed,
do not see the target at all.
-/

namespace Interception

/-- What came of proceeding, if the request is to proceed. -/
def Steering.proceeded? : (request : Steering) → Outcome request.Answer → Option (Outcome CallResult)
  | .proceed, outcome => some outcome
  | _, _ => none

/-- The times that code proceeds in a run: with which arguments, and what came of it. -/
def Program.proceedings {α : Type} (dial : Dialler) (goOn : Run Running CallResult) :
    SteeringProgram α → Running → List (Arguments × Outcome CallResult)
  | .done _, _ | .panic _, _ => []
  | .ask request next, running =>
    let (outcome, later) := Steering.answer dial goOn request running
    ((request.proceeded? outcome).map (running.invocation.arguments, ·)).toList ++
      match outcome with
      | .returned answer => (next answer).proceedings dial goOn later
      | _ => []
  | .attempt request next, running =>
    let (outcome, later) := Steering.answer dial goOn request running
    ((request.proceeded? outcome).map (running.invocation.arguments, ·)).toList ++
      match outcome with
      | .returned answer => (next (.ok answer)).proceedings dial goOn later
      | .panicked message => (next (.error message)).proceedings dial goOn later
      | .exhausted => []

namespace Running

/-- The call in which the innermost advice has just proceeded, if it may. -/
def granted? (running : Running) : Option Running :=
  match running.invocation.frames with
  | [] => none
  | frame :: outer =>
    if frame.canProceed && !frame.proceeded then
      some (running.mapInvocation fun invocation =>
        { invocation.record (.proceeded frame.sequence) with
          frames := { frame with proceeded := true } :: outer })
    else none

/-- The innermost advice goes on in the call in which it has proceeded, or it is refused, whatever it would have
gone on to. -/
theorem proceed_eq (next : Run Running CallResult) (running : Running) :
    proceed next running = running.granted?.elim (proceed Run.exhausted running) next := by
  unfold proceed granted?
  cases running.invocation.frames with
  | nil => rfl
  | cons frame outer =>
    obtain ⟨label, sequence, canProceed, proceeded, misused⟩ := frame
    cases canProceed <;> cases proceeded <;> rfl

/-- Proceeding is told of in the frame and in the journal. -/
theorem exists_of_granted? {running granted : Running} (h : running.granted? = some granted) :
    ∃ frames journal, granted = running.mapInvocation ({ · with frames, journal }) := by
  unfold granted? at h
  split at h
  · cases h
  · split at h
    · cases h
      exact ⟨_, _, rfl⟩
    · cases h

/-- Without anything to go on to, proceeding is told of in the frame, in the journal and in the log. -/
theorem exists_of_exhausted (running : Running) : ∃ frames journal records,
    (proceed Run.exhausted running).2 = { running.mapInvocation ({ · with frames, journal }) with
      world := { running.world with records } } := by
  unfold proceed
  cases running.invocation.frames with
  | nil => exact ⟨_, _, _, rfl⟩
  | cons frame outer =>
    obtain ⟨label, sequence, canProceed, proceeded, misused⟩ := frame
    cases canProceed <;> cases proceeded <;> exact ⟨_, _, _, rfl⟩

/-- The call with a target that is not taken yet. -/
def withTerminal (running : Running) (terminal : Terminal) : Running :=
  running.mapInvocation ({ · with terminal := some terminal })

/-- Nothing of the call is different but the arguments. -/
def Undisturbed (running later : Running) : Prop :=
  ∃ arguments, later.invocation = { running.invocation with arguments }

/-- A call is undisturbed as long as nothing happens. -/
theorem Undisturbed.refl (running : Running) : running.Undisturbed running := ⟨_, rfl⟩

/-- A call that is left undisturbed twice is undisturbed. -/
theorem Undisturbed.trans {running later last : Running} (h : running.Undisturbed later)
    (h' : later.Undisturbed last) : running.Undisturbed last := by
  obtain ⟨_, h⟩ := h
  obtain ⟨arguments, h'⟩ := h'
  exact ⟨arguments, by rw [h', h]⟩

/-- Requests leave a call undisturbed, except to proceed. -/
theorem undisturbed_answer (dial : Dialler) (goOn : Run Running CallResult) {request : Steering}
    (h : request ≠ .proceed) (running : Running) :
    running.Undisturbed (Steering.answer dial goOn request running).2 := by
  cases request with
  | ambient request => exact .refl running
  | view => exact .refl running
  | description => exact .refl running
  | setArguments arguments => exact ⟨arguments, rfl⟩
  | setRoutingKey key => exact .refl running
  | proceed => exact absurd rfl h

/-- Requests are answered alike whatever the target is and whatever it means to proceed, except to
proceed. -/
theorem answer_withTerminal (dial : Dialler) (goOn goOn' : Run Running CallResult) {request : Steering}
    (h : request ≠ .proceed) (running : Running) (terminal : Terminal) :
    Steering.answer dial goOn request (running.withTerminal terminal) =
      ((Steering.answer dial goOn' request running).1,
        (Steering.answer dial goOn' request running).2.withTerminal terminal) := by
  cases request with
  | proceed => exact absurd rfl h
  | _ => rfl

end Running

/-- A run that does not see the target. -/
def Run.IsBlind {α : Type} (run : Run Running α) : Prop :=
  ∀ running terminal, run (running.withTerminal terminal) =
    ((run running).1, (run running).2.withTerminal terminal)

namespace Run.IsBlind

variable {α β : Type}

/-- Returning does not see the target. -/
theorem pure (value : α) : Run.IsBlind (Pure.pure value : Run Running α) := fun _ _ => rfl

/-- Runs that do not see the target do not see it one after the other. -/
theorem bind {first : Run Running α} {next : α → Run Running β} (hfirst : first.IsBlind)
    (hnext : ∀ value, (next value).IsBlind) : Run.IsBlind (first >>= next) := by
  intro running terminal
  rw [Run.bind_apply, Run.bind_apply, hfirst running terminal]
  generalize first running = ran
  obtain ⟨outcome, later⟩ := ran
  cases outcome with
  | returned value => exact hnext value later terminal
  | panicked message => rfl
  | exhausted => rfl

/-- A run that does not see the target does not see it if it returns after a panic as well. -/
theorem attempt {run : Run Running α} (h : run.IsBlind) : run.attempt.IsBlind := by
  intro running terminal
  rw [Run.attempt_apply, Run.attempt_apply, h running terminal]
  generalize run running = ran
  obtain ⟨outcome, later⟩ := ran
  cases outcome <;> rfl

/-- A program does not see the target if no answer to its requests does. -/
theorem program {Request : Type} {Answer : Request → Type}
    {answer : (request : Request) → Run Running (Answer request)}
    (h : ∀ request, (answer request).IsBlind) (program : Program Answer α) :
    (program.run answer).IsBlind := by
  induction program with
  | done value => exact IsBlind.pure value
  | panic message => exact fun _ _ => rfl
  | ask request next ih => exact bind (h request) ih
  | attempt request next ih => exact bind (h request).attempt ih

/-- Proceeding does not see the target if what it proceeds to does not. -/
theorem proceed {next : Run Running CallResult} (h : next.IsBlind) : (Running.proceed next).IsBlind := by
  intro running terminal
  have hframes : (running.withTerminal terminal).invocation.frames = running.invocation.frames := rfl
  unfold Running.proceed
  rw [hframes]
  cases running.invocation.frames with
  | nil => rfl
  | cons frame outer =>
    simp only
    split
    · rfl
    · split
      · rfl
      · exact h (running.mapInvocation fun invocation =>
          { invocation.record (.proceeded frame.sequence) with
            frames := { frame with proceeded := true } :: outer }) terminal

end Run.IsBlind

/-- A before advice does not see the target. -/
theorem Running.runBefore_isBlind (dial : Dialler) (step : Step BeforeBody) :
    (runBefore dial step).IsBlind := by
  have hproceed : (proceed Run.exhausted).IsBlind := .proceed fun _ _ => rfl
  have hanswer : ∀ request, (Steering.answer dial (proceed Run.exhausted) request).IsBlind := by
    intro request
    by_cases hrequest : request = .proceed
    · exact hrequest ▸ hproceed
    · exact fun running terminal => answer_withTerminal dial _ _ hrequest running terminal
  exact .bind (fun _ _ => rfl) fun _ => .bind (.program hanswer step.body) fun result =>
    .bind (fun _ _ => rfl) fun _ => .pure result

/-- Before advices do not see the target. -/
theorem Chain.runBefores_isBlind (dial : Dialler) (steps : List (Step BeforeBody)) :
    (runBefores dial steps).IsBlind := by
  induction steps with
  | nil => exact .pure _
  | cons step steps ih =>
    refine .bind (Running.runBefore_isBlind dial step) fun result => ?_
    cases result with
    | error error => exact .pure _
    | ok => exact ih

namespace Program

variable {α : Type} {dial : Dialler} {goOn : Run Running CallResult}

/-- A request that is answered leads on to the rest of the code. -/
theorem run_ask_of_answer {request : Steering} {next : request.Answer → SteeringProgram α}
    {running later : Running} {answer : request.Answer}
    (h : Steering.answer dial goOn request running = (.returned answer, later)) :
    (Program.ask request next).run (Steering.answer dial goOn) running =
      (next answer).run (Steering.answer dial goOn) later := by
  rw [run_ask]
  change (Steering.answer dial goOn request >>= _) running = _
  rw [Run.bind_apply, h]

/-- An attempt leads on to the rest of the code, whether it is answered or panics. -/
theorem run_attempt_of_answer {request : Steering}
    {next : Except String request.Answer → SteeringProgram α} {running later : Running}
    {reply : Except String request.Answer}
    (h : Steering.answer dial goOn request running = (.ofAttempt reply, later)) :
    (Program.attempt request next).run (Steering.answer dial goOn) running =
      (next reply).run (Steering.answer dial goOn) later := by
  rw [run_attempt]
  change ((Steering.answer dial goOn request).attempt >>= _) running = _
  rw [Run.bind_apply, Run.attempt_eq_returned_iff.mpr h]

/-- A request other than to proceed is not one of the times that code proceeds. -/
theorem proceeded?_of_ne {request : Steering} (hrequest : request ≠ .proceed)
    (outcome : Outcome request.Answer) : request.proceeded? outcome = none := by
  cases request with
  | proceed => exact absurd rfl hrequest
  | _ => rfl

/-- A request that is none of the times that code proceeds is not to proceed. -/
theorem ne_proceed_of_append_eq_nil {request : Steering} {outcome : Outcome request.Answer}
    {arguments : Arguments} {rest : List (Arguments × Outcome CallResult)}
    (h : ((request.proceeded? outcome).map (arguments, ·)).toList ++ rest = []) : request ≠ .proceed := by
  rintro rfl
  cases h

/-- The times that code proceeds are found in the rest of the code, once a request was answered that is not
to proceed. -/
theorem proceedings_ask_of_answer {request : Steering} (hrequest : request ≠ .proceed)
    {next : request.Answer → SteeringProgram α} {running later : Running} {answer : request.Answer}
    (h : Steering.answer dial goOn request running = (.returned answer, later)) :
    (Program.ask request next).proceedings dial goOn running =
      (next answer).proceedings dial goOn later := by
  rw [proceedings, h]
  simp only [proceeded?_of_ne hrequest, Option.map_none, Option.toList_none, List.nil_append]

/-- The times that code proceeds are found in the rest of the code, once a request was attempted that is not
to proceed. -/
theorem proceedings_attempt_of_answer {request : Steering} (hrequest : request ≠ .proceed)
    {next : Except String request.Answer → SteeringProgram α} {running later : Running}
    {reply : Except String request.Answer}
    (h : Steering.answer dial goOn request running = (.ofAttempt reply, later)) :
    (Program.attempt request next).proceedings dial goOn running =
      (next reply).proceedings dial goOn later := by
  rw [proceedings, h]
  cases reply <;>
    simp only [Outcome.ofAttempt, proceeded?_of_ne hrequest, Option.map_none, Option.toList_none,
      List.nil_append]

/-- Code that asks to proceed does so with the arguments that are there, and goes on with what comes of
it. -/
theorem proceedings_proceed {next : Steering.proceed.Answer → SteeringProgram α} {running later : Running}
    {result : CallResult} (h : goOn running = (.returned result, later)) :
    (Program.ask Steering.proceed next).proceedings dial goOn running =
      (running.invocation.arguments, .returned result) :: (next result).proceedings dial goOn later := by
  rw [proceedings, Steering.answer, h]
  rfl

/-- The first time that code proceeds, it does so in a state that depends neither on what it proceeds to nor on
the target, and goes on with what comes of it, if it goes on. -/
structure Approaches (dial : Dialler) (code : SteeringProgram α) (running asked : Running)
    (next : Except String CallResult → SteeringProgram α) : Prop where
  /-- The call is undisturbed before. -/
  undisturbed : running.Undisturbed asked
  /-- The code leads to where it proceeds, and goes on from there. -/
  run_eq : ∀ goOn terminal, code.run (Steering.answer dial goOn) (running.withTerminal terminal) =
    (goOn.attempt >>= fun reply => (next reply).run (Steering.answer dial goOn)) (asked.withTerminal terminal)
  /-- It is the first of the times that the code proceeds. -/
  proceedings_eq : ∀ goOn terminal reply later,
    goOn (asked.withTerminal terminal) = (.ofAttempt reply, later) →
    code.proceedings dial goOn (running.withTerminal terminal) =
      (asked.invocation.arguments, .ofAttempt reply) :: (next reply).proceedings dial goOn later

namespace Approaches

variable {code rest : SteeringProgram α} {running later asked : Running}
  {next : Except String CallResult → SteeringProgram α}

/-- Code that asks to proceed goes on if it is answered. -/
theorem ask (dial : Dialler) (next : Steering.proceed.Answer → SteeringProgram α) (running : Running) :
    Approaches dial (.ask .proceed next) running running fun
      | .ok result => next result
      | .error message => .panic message where
  undisturbed := .refl running
  run_eq goOn terminal := by
    change (goOn >>= fun result => (next result).run (Steering.answer dial goOn))
      (running.withTerminal terminal) = _
    rw [Run.bind_apply, Run.bind_apply, Run.attempt_apply]
    generalize goOn (running.withTerminal terminal) = ran
    obtain ⟨outcome, later⟩ := ran
    cases outcome <;> rfl
  proceedings_eq goOn terminal reply later h := by
    rw [proceedings, Steering.answer, h]
    cases reply <;> rfl

/-- Code that attempts to proceed goes on in any case. -/
theorem attempt (dial : Dialler) (next : Except String Steering.proceed.Answer → SteeringProgram α)
    (running : Running) :
    Approaches dial (.attempt .proceed next) running running next where
  undisturbed := .refl running
  run_eq goOn terminal := rfl
  proceedings_eq goOn terminal reply later h := by
    rw [proceedings, Steering.answer, h]
    cases reply <;> rfl

/-- What comes before, and leads to the code, is no time that code proceeds. -/
theorem before (h : Approaches dial rest later asked next) (hundisturbed : running.Undisturbed later)
    (hran : ∀ goOn terminal, code.run (Steering.answer dial goOn) (running.withTerminal terminal) =
      rest.run (Steering.answer dial goOn) (later.withTerminal terminal))
    (hproceedings : ∀ goOn terminal, code.proceedings dial goOn (running.withTerminal terminal) =
      rest.proceedings dial goOn (later.withTerminal terminal)) :
    Approaches dial code running asked next where
  undisturbed := hundisturbed.trans h.undisturbed
  run_eq goOn terminal := (hran goOn terminal).trans (h.run_eq goOn terminal)
  proceedings_eq goOn terminal reply last hlast :=
    (hproceedings goOn terminal).trans (h.proceedings_eq goOn terminal reply last hlast)

end Approaches

/-- Code either proceeds first in a state that depends neither on what it proceeds to nor on the target, or
does not proceed at all. -/
theorem approach (dial : Dialler) (code : SteeringProgram α) (running : Running) :
    (∃ asked next, Approaches dial code running asked next) ∨
    ∀ goOn terminal, code.proceedings dial goOn (running.withTerminal terminal) = [] := by
  induction code generalizing running with
  | done value => exact .inr fun _ _ => rfl
  | panic message => exact .inr fun _ _ => rfl
  | ask request next ih =>
    by_cases hrequest : request = .proceed
    · subst hrequest
      exact .inl ⟨running, _, .ask dial next running⟩
    · have hundisturbed := Running.undisturbed_answer dial Run.exhausted hrequest running
      have hanswer := fun goOn terminal =>
        Running.answer_withTerminal dial goOn Run.exhausted hrequest running terminal
      generalize Steering.answer dial Run.exhausted request running = ran at hundisturbed hanswer
      obtain ⟨outcome, later⟩ := ran
      cases outcome with
      | returned answer =>
        refine (ih answer later).imp ?_ fun hnever goOn terminal => ?_
        · rintro ⟨asked, rest, happroaches⟩
          exact ⟨asked, rest, happroaches.before hundisturbed
            (fun goOn terminal => run_ask_of_answer (hanswer goOn terminal))
            fun goOn terminal => proceedings_ask_of_answer hrequest (hanswer goOn terminal)⟩
        · rw [proceedings_ask_of_answer hrequest (hanswer goOn terminal)]
          exact hnever goOn terminal
      | panicked message =>
        refine .inr fun goOn terminal => ?_
        rw [proceedings, hanswer goOn terminal]
        simp [proceeded?_of_ne hrequest]
      | exhausted =>
        refine .inr fun goOn terminal => ?_
        rw [proceedings, hanswer goOn terminal]
        simp [proceeded?_of_ne hrequest]
  | attempt request next ih =>
    by_cases hrequest : request = .proceed
    · subst hrequest
      exact .inl ⟨running, next, .attempt dial next running⟩
    · have hundisturbed := Running.undisturbed_answer dial Run.exhausted hrequest running
      have hanswer := fun goOn terminal =>
        Running.answer_withTerminal dial goOn Run.exhausted hrequest running terminal
      generalize Steering.answer dial Run.exhausted request running = ran at hundisturbed hanswer
      obtain ⟨outcome, later⟩ := ran
      have hgoesOn : ∀ reply : Except String request.Answer, outcome = .ofAttempt reply →
          (∃ asked rest, Approaches dial (.attempt request next) running asked rest) ∨
            ∀ goOn terminal, (Program.attempt request next).proceedings dial goOn
              (running.withTerminal terminal) = [] := by
        rintro reply rfl
        refine (ih reply later).imp ?_ fun hnever goOn terminal => ?_
        · rintro ⟨asked, rest, happroaches⟩
          exact ⟨asked, rest, happroaches.before hundisturbed
            (fun goOn terminal => run_attempt_of_answer (hanswer goOn terminal))
            fun goOn terminal => proceedings_attempt_of_answer hrequest (hanswer goOn terminal)⟩
        · rw [proceedings_attempt_of_answer hrequest (hanswer goOn terminal)]
          exact hnever goOn terminal
      cases outcome with
      | returned answer => exact hgoesOn (.ok answer) rfl
      | panicked message => exact hgoesOn (.error message) rfl
      | exhausted =>
        refine .inr fun goOn terminal => ?_
        rw [proceedings, hanswer goOn terminal]
        simp [proceeded?_of_ne hrequest]

/-- Code that does not proceed leaves the call undisturbed. -/
theorem undisturbed_of_proceedings_nil {code : SteeringProgram α} {running later : Running} {value : α}
    (hrun : code.run (Steering.answer dial goOn) running = (.returned value, later))
    (hnever : code.proceedings dial goOn running = []) : running.Undisturbed later := by
  induction code generalizing running with
  | done value =>
    cases hrun
    exact .refl _
  | panic message => cases hrun
  | ask request next ih =>
    obtain ⟨answer, between, hanswer, hrest⟩ := Run.bind_eq_returned_iff.mp hrun
    have hrequest : request ≠ .proceed := by
      rw [proceedings] at hnever
      exact ne_proceed_of_append_eq_nil hnever
    have hundisturbed := Running.undisturbed_answer dial goOn hrequest running
    rw [hanswer] at hundisturbed
    rw [proceedings_ask_of_answer hrequest hanswer] at hnever
    exact hundisturbed.trans (ih answer hrest hnever)
  | attempt request next ih =>
    obtain ⟨reply, between, hattempt, hrest⟩ := Run.bind_eq_returned_iff.mp hrun
    have hanswer := Run.attempt_eq_returned_iff.mp hattempt
    have hrequest : request ≠ .proceed := by
      rw [proceedings] at hnever
      exact ne_proceed_of_append_eq_nil hnever
    have hundisturbed := Running.undisturbed_answer dial goOn hrequest running
    rw [hanswer] at hundisturbed
    rw [proceedings_attempt_of_answer hrequest hanswer] at hnever
    exact hundisturbed.trans (ih reply hrest hnever)

/-- Code that proceeds once, with the arguments that it found, and returns what came of it leaves the call
undisturbed before and after. In which state it proceeds depends neither on what it proceeds to nor on the
target. -/
theorem exists_asked (dial : Dialler) {code : SteeringProgram CallResult} {running : Running}
    (hcode : ∀ goOn terminal result later,
      code.run (Steering.answer dial goOn) (running.withTerminal terminal) = (.returned result, later) →
      code.proceedings dial goOn (running.withTerminal terminal) =
        [(running.invocation.arguments, .returned result)]) :
    ∃ asked, running.Undisturbed asked ∧ ∀ goOn terminal result later,
      code.run (Steering.answer dial goOn) (running.withTerminal terminal) = (.returned result, later) →
      asked.invocation.arguments = running.invocation.arguments ∧
      ∃ served, goOn (asked.withTerminal terminal) = (.returned result, served) ∧
        served.Undisturbed later := by
  obtain ⟨asked, next, happroaches⟩ | hnever := code.approach dial running
  · refine ⟨asked, happroaches.undisturbed, fun goOn terminal result later hrun => ?_⟩
    have hproceedings := hcode goOn terminal result later hrun
    rw [happroaches.run_eq] at hrun
    obtain ⟨reply, served, hattempt, hrest⟩ := Run.bind_eq_returned_iff.mp hrun
    have hserved := Run.attempt_eq_returned_iff.mp hattempt
    rw [happroaches.proceedings_eq goOn terminal reply served hserved] at hproceedings
    obtain ⟨hfirst, hnone⟩ := List.cons.inj hproceedings
    obtain ⟨harguments, hreply⟩ := Prod.mk.inj hfirst
    exact ⟨harguments, served, hreply ▸ hserved, undisturbed_of_proceedings_nil hrest hnone⟩
  · refine ⟨running, .refl running, fun goOn terminal result later hrun => ?_⟩
    have hproceedings := hcode goOn terminal result later hrun
    rw [hnever] at hproceedings
    cases hproceedings

end Program

end Interception
