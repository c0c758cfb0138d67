import Interception.Chain

/-!
# The moments of a call

A run tells only where it leads. Here it is watched as well: a moment of a run is a state in which code of
an advice or of the target is in control, together with what the code does next. A watched run is a run
with its moments. Running one after the other, reading the state and answering requests put watched runs
together, and everything else a call consists of is quiet: no code is in control during it.

A whole call is put together in this way from the programs of its advices and of its target. Without its
moments it is the call as it is run. What can be shown of its parts and carries over to runs one after the
other can be shown of the whole call.
-/

namespace Interception

/-- What code does when it is in control. -/
inductive Act where
  /-- It makes a request. -/
  | asks (request : Steering)
  /-- It is finished. -/
  | finishes
  /-- It breaks off. -/
  | panics

/-- A request of an advice that only sees the call, as a request of one that steers it. -/
def Observing.steering : Observing → Steering
  | ambient request => .ambient request
  | view => .view
  | description => .description

/-- A run with its moments. -/
structure Watched (σ α : Type) where
  /-- The run. -/
  run : Run σ α
  /-- Whether code acts in the second state when the run begins in the first. -/
  acts : σ → Act → σ → Prop

/-- A verdict on an around advice is always given, and at most the log shows it. -/
theorem Running.judge_returns (signature : CallSignature) (label : String) (frame : Frame)
    (result : CallResult) (running : Running) : ∃ judged later,
      Running.judge signature label frame result running = (.returned judged, later) ∧
      later.invocation = running.invocation ∧ later.world.scopes = running.world.scopes := by
  obtain ⟨_, sequence, canProceed, proceeded, misused⟩ := frame
  cases misused <;> cases result <;> cases proceeded <;> exact ⟨_, _, rfl, rfl, rfl⟩

namespace Watched

variable {σ α β : Type}

/-- A run during which no code is in control. -/
def quiet (run : Run σ α) : Watched σ α := ⟨run, fun _ _ _ => False⟩

/-- Runs one after the other. The second has its moments if the first returns. -/
def bind (first : Watched σ α) (next : α → Watched σ β) : Watched σ β :=
  { run := first.run >>= fun value => (next value).run
    acts := fun s act t => first.acts s act t ∨
      ∃ value between, first.run s = (.returned value, between) ∧ (next value).acts between act t }

instance : Monad (Watched σ) where
  pure value := quiet (Pure.pure value)
  bind := bind

/-- A run that depends on the state in which it begins. -/
def given (choose : σ → Watched σ α) : Watched σ α :=
  ⟨fun s => (choose s).run s, fun s => (choose s).acts s⟩

/-- A run that returns after a panic as well, with its message. -/
def attempt (watched : Watched σ α) : Watched σ (Except String α) := ⟨watched.run.attempt, watched.acts⟩

/-- A run that begins with code in control. -/
def acting (act : Act) (watched : Watched σ α) : Watched σ α :=
  ⟨watched.run, fun s act' t => (act' = act ∧ t = s) ∨ watched.acts s act' t⟩

/-- Runs a program with a handler for its requests, which are seen as requests of a steering advice. -/
def program {Request : Type} {Answer : Request → Type} (seen : Request → Steering)
    (answer : (request : Request) → Watched σ (Answer request)) : Program Answer α → Watched σ α
  | .done value => acting .finishes (quiet (Pure.pure value))
  | .panic message => acting .panics (quiet fun s => (.panicked message, s))
  | .ask request next =>
    acting (.asks (seen request)) (bind (answer request) fun reply => program seen answer (next reply))
  | .attempt request next => acting (.asks (seen request))
    (bind (answer request).attempt fun reply => program seen answer (next reply))

@[simp] theorem run_quiet (run : Run σ α) : (quiet run).run = run := rfl

@[simp] theorem run_pure (value : α) : (Pure.pure value : Watched σ α).run = Pure.pure value := rfl

@[simp] theorem run_bind (first : Watched σ α) (next : α → Watched σ β) :
    (first >>= next).run = first.run >>= fun value => (next value).run := rfl

/-- Without its moments, the run of a program is its run. -/
@[simp] theorem run_program {Request : Type} {Answer : Request → Type} (seen : Request → Steering)
    (answer : (request : Request) → Watched σ (Answer request)) (program : Program Answer α) :
    (Watched.program seen answer program).run = program.run fun request => (answer request).run := by
  induction program with
  | done value => rfl
  | panic message => rfl
  | ask request next ih => exact congrArg (Run.bind _) (funext ih)
  | attempt request next ih => exact congrArg (Run.bind _) (funext ih)

/-- Answers a request of an advice that steers the call. What it means to proceed is given. -/
def answer (dial : Dialler) (goOn : Watched Running CallResult) :
    (request : Steering) → Watched Running request.Answer
  | .proceed => goOn
  | .ambient request => quiet (Run.inWorld (request.answer dial))
  | .view => quiet (Steering.answer dial goOn.run .view)
  | .description => quiet (Steering.answer dial goOn.run .description)
  | .setArguments arguments => quiet (Steering.answer dial goOn.run (.setArguments arguments))
  | .setRoutingKey key => quiet (Steering.answer dial goOn.run (.setRoutingKey key))

/-- Proceeds for the innermost advice that is running, if it may. -/
def proceed (next : Watched Running CallResult) : Watched Running CallResult := given fun running =>
  match running.invocation.frames with
  | [] => quiet (Running.refuse "<none>" .noAdvice)
  | frame :: outer =>
    if !frame.canProceed then do
      quiet (Run.modify (·.mapInvocation (·.record (.refused frame.sequence))))
      quiet (Running.refuse frame.label .notAround)
    else if frame.proceeded then do
      quiet (Run.modify fun running => (running.mapInvocation fun invocation =>
          { invocation.record (.refused frame.sequence) with
            frames := { frame with misused := true } :: outer }).log
        (.warn ("advice '" ++ frame.label ++ "' called proceed more than once on " ++
          running.invocation.signature.display)))
      quiet (Running.refuse frame.label .repeated)
    else do
      quiet (Run.modify (·.mapInvocation fun invocation =>
        { invocation.record (.proceeded frame.sequence) with
          frames := { frame with proceeded := true } :: outer }))
      next

/-- Enters the target with the arguments that are there, which the invocation loses. -/
def callTarget (dial : Dialler) : Watched Running CallResult := given fun running =>
  match running.invocation.terminal with
  | none => do
    quiet (Run.modify (·.mapInvocation (·.record .targetTaken)))
    quiet (Running.refuse ((running.invocation.frames.head?.map Frame.label).getD "") .targetTaken)
  | some terminal => do
    quiet (Run.modify fun running => running.mapInvocation fun invocation =>
      { (invocation.enterPhase .targetCalled).record (.target running.invocation.arguments) with
        targetCalled := true
        terminal := none
        arguments := .empty })
    program Steering.ambient (fun request => quiet (Run.inWorld (request.answer dial)))
      (terminal running.invocation.arguments)

/-- Runs one around advice. What it proceeds to is given. -/
def around (dial : Dialler) (next : Watched Running CallResult) (step : Step AroundBody) :
    Watched Running CallResult := do
  quiet (Run.modify
    (·.mapInvocation (·.openFrame .around ⟨step.label, step.sequence, true, false, false⟩)))
  let result ← program id (answer dial (proceed next)) step.body
  let frame ← quiet (Running.closeFrame step)
  let signature ← quiet (Run.read fun running => running.invocation.signature)
  quiet (Running.judge signature step.label frame result)

/-- Enters the around advice at the cursor, or the target if no advice is left. -/
def proceedNext (dial : Dialler) (arounds : List (Step AroundBody)) :
    (bound : Nat) → Watched Running CallResult
  | 0 => quiet Run.exhausted
  | bound + 1 => given fun running =>
    match arounds[running.invocation.cursor]? with
    | some step => do
      quiet (Run.modify (·.mapInvocation fun invocation =>
        { invocation with cursor := invocation.cursor + 1 }))
      around dial (proceedNext dial arounds bound) step
    | none => callTarget dial

/-- Runs the whole nest. -/
def nest (dial : Dialler) (arounds : List (Step AroundBody)) : Watched Running CallResult := do
  quiet (Run.modify (·.mapInvocation (·.enterPhase .aroundNestRunning)))
  proceedNext dial arounds (arounds.length + 1)

/-- Runs one before advice, which may not proceed. -/
def before (dial : Dialler) (step : Step BeforeBody) : Watched Running (Except AopError Unit) := do
  quiet (Run.modify
    (·.mapInvocation (·.openFrame .before ⟨step.label, step.sequence, false, false, false⟩)))
  let result ← program id (answer dial (proceed (quiet Run.exhausted))) step.body
  quiet (Run.modify (·.mapInvocation Invocation.closeFrame))
  pure result

/-- Runs before advices up to the first that fails. -/
def befores (dial : Dialler) : List (Step BeforeBody) → Watched Running (Except AopError Unit)
  | [] => pure (.ok ())
  | step :: steps => do
    match ← before dial step with
    | .error error => pure (.error error)
    | .ok () => befores dial steps

/-- Runs an advice at the end of the call. -/
def observe {α : Type} (dial : Dialler) (kind : AdviceKind) (sequence : Nat)
    (body : ObservingProgram α) : Watched Running α := do
  quiet (Run.modify (·.mapInvocation (·.record (.advice kind sequence))))
  given fun running => program Observing.steering
    (fun request => quiet (Run.inWorld (request.answer dial running.invocation))) body

/-- Runs after advices up to the first that fails, whose error replaces the outcome. -/
def afters (dial : Dialler) (outcome : CallResult) : List (Step AfterBody) → Watched Running CallResult
  | [] => pure outcome
  | step :: steps => do
    match ← observe dial .after step.sequence step.body with
    | .ok () => afters dial outcome steps
    | .error error =>
      match outcome with
      | .ok _ => pure (.error error)
      | .error replaced => quiet fun running =>
        (.returned (.error error),
          running.log (.warn ("after advice '" ++ step.label ++ "' failed on " ++
            running.invocation.signature.display ++ ", replacing error: " ++ replaced.message)))

/-- Runs the advices for a returned value up to the first that fails. -/
def afterReturnings (dial : Dialler) (value : Value) :
    List (Step AfterReturningBody) → Watched Running CallResult
  | [] => pure (.ok value)
  | step :: steps => do
    match ← observe dial .afterReturning step.sequence (step.body value) with
    | .ok () => afterReturnings dial value steps
    | .error error => pure (.error error)

/-- Runs the advices for an error up to the first that fails. -/
def afterThrowings (dial : Dialler) (error : AopError) (swallowed : Option Value) :
    List (Step AfterThrowingBody) → Watched Running CallResult
  | [] =>
    match swallowed with
    | some value => pure (.ok value)
    | none => pure (.error error)
  | step :: steps => do
    match ← observe dial .afterThrowing step.sequence (step.body error) with
    | .error replaced => pure (.error replaced)
    | .ok .rethrow => afterThrowings dial error swallowed steps
    | .ok (.swallow value) =>
      match swallowed with
      | some _ => afterThrowings dial error swallowed steps
      | none => do
        quiet (Run.modify fun running =>
          running.log (.debug ("advice '" ++ step.label ++ "' swallowed error on " ++
            running.invocation.signature.display ++ ": " ++ error.message)))
        afterThrowings dial error (some value) steps

/-- Moves on to a phase of the call. -/
def enterPhase (phase : CallPhase) : Watched Running Unit := quiet (Chain.enterPhase phase)

/-- Runs the before advices and, if all succeed, the nest. -/
def inner (chain : Chain) (dial : Dialler) : Watched Running CallResult := do
  match ← befores dial chain.befores with
  | .error error => pure (.error error)
  | .ok () =>
    enterPhase .beforeDone
    nest dial chain.arounds

/-- Runs the advices that depend on how the call ended. -/
def ending (chain : Chain) (dial : Dialler) : CallResult → Watched Running CallResult
  | .ok value => do
    enterPhase .afterReturning
    afterReturnings dial value chain.afterReturnings
  | .error error => do
    enterPhase .afterThrowing
    afterThrowings dial error none chain.afterThrowings

/-- Runs what follows the nest of a call, given what the nest gave back. -/
def closing (chain : Chain) (dial : Dialler) (outcome : CallResult) : Watched Running CallResult := do
  enterPhase .unwinding
  let outcome ← afters dial outcome chain.afters
  let result ← ending chain dial outcome
  enterPhase .completed
  pure result

/-- Runs all phases of a call. -/
def phases (chain : Chain) (dial : Dialler) : Watched Running CallResult := do
  let outcome ← inner chain dial
  enterPhase .unwinding
  let outcome ← afters dial outcome chain.afters
  let result ← ending chain dial outcome
  enterPhase .completed
  pure result

/-- A property of watched runs that a run has if it only writes to the log, and that two runs have one
after the other if both do. -/
structure Composes (holds : {α : Type} → Watched Running α → Prop) : Prop where
  /-- Returning has the property. -/
  pure {α : Type} (value : α) : holds (Pure.pure value)
  /-- Returning after a record was written to the log has the property. -/
  log {α : Type} (value : α) (record : Running → LogRecord) :
    holds (quiet fun running => (.returned value, running.log (record running)))
  /-- Runs have the property one after the other. -/
  bind {α β : Type} {first : Watched Running α} {next : α → Watched Running β} :
    holds first → (∀ value, holds (next value)) → holds (first >>= next)

namespace Composes

variable {holds : {α : Type} → Watched Running α → Prop} {dial : Dialler}

/-- Before advices have the property if each has it. -/
theorem befores (h : Composes holds) {steps : List (Step BeforeBody)}
    (hsteps : ∀ step ∈ steps, holds (before dial step)) : holds (befores dial steps) := by
  induction steps with
  | nil => exact h.pure _
  | cons step steps ih =>
    obtain ⟨hstep, hothers⟩ := List.forall_mem_cons.mp hsteps
    refine h.bind hstep fun result => ?_
    cases result with
    | error error => exact h.pure _
    | ok => exact ih hothers

/-- After advices have the property if each has it. -/
theorem afters (h : Composes holds) (outcome : CallResult) {steps : List (Step AfterBody)}
    (hsteps : ∀ step ∈ steps, holds (observe dial .after step.sequence step.body)) :
    holds (afters dial outcome steps) := by
  induction steps with
  | nil => exact h.pure _
  | cons step steps ih =>
    obtain ⟨hstep, hothers⟩ := List.forall_mem_cons.mp hsteps
    refine h.bind hstep fun result => ?_
    cases result with
    | ok => exact ih hothers
    | error error =>
      cases outcome with
      | ok value => exact h.pure _
      | error replaced => exact h.log _ _

/-- The advices for a returned value have the property if each has it. -/
theorem afterReturnings (h : Composes holds) (value : Value) {steps : List (Step AfterReturningBody)}
    (hsteps : ∀ step ∈ steps, holds (observe dial .afterReturning step.sequence (step.body value))) :
    holds (afterReturnings dial value steps) := by
  induction steps with
  | nil => exact h.pure _
  | cons step steps ih =>
    obtain ⟨hstep, hothers⟩ := List.forall_mem_cons.mp hsteps
    refine h.bind hstep fun result => ?_
    cases result with
    | ok => exact ih hothers
    | error error => exact h.pure _

/-- The advices for an error have the property if each has it. -/
theorem afterThrowings (h : Composes holds) (error : AopError) (swallowed : Option Value)
    {steps : List (Step AfterThrowingBody)}
    (hsteps : ∀ step ∈ steps, holds (observe dial .afterThrowing step.sequence (step.body error))) :
    holds (afterThrowings dial error swallowed steps) := by
  induction steps generalizing swallowed with
  | nil => cases swallowed <;> exact h.pure _
  | cons step steps ih =>
    obtain ⟨hstep, hothers⟩ := List.forall_mem_cons.mp hsteps
    refine h.bind hstep fun result => ?_
    cases result with
    | error replaced => exact h.pure _
    | ok disposition =>
      cases disposition with
      | rethrow => exact ih swallowed hothers
      | swallow value =>
        cases swallowed with
        | some earlier => exact ih _ hothers
        | none => exact h.bind (h.log _ _) fun _ => ih _ hothers

/-- A call has the property up to the end of its nest if its before advices and its nest have it. -/
theorem inner (h : Composes holds) {chain : Chain} (hphase : ∀ phase, holds (enterPhase phase))
    (hbefore : ∀ step ∈ chain.befores, holds (before dial step))
    (hnest : holds (nest dial chain.arounds)) : holds (inner chain dial) := by
  refine h.bind (h.befores hbefore) fun result => ?_
  cases result with
  | error error => exact h.pure _
  | ok => exact h.bind (hphase _) fun _ => hnest

/-- What follows the nest of a call has the property if each advice there has it. -/
theorem closing (h : Composes holds) {chain : Chain} (hphase : ∀ phase, holds (enterPhase phase))
    (outcome : CallResult)
    (hafter : ∀ step ∈ chain.afters, holds (observe dial .after step.sequence step.body))
    (hreturning : ∀ value, ∀ step ∈ chain.afterReturnings,
      holds (observe dial .afterReturning step.sequence (step.body value)))
    (hthrowing : ∀ error, ∀ step ∈ chain.afterThrowings,
      holds (observe dial .afterThrowing step.sequence (step.body error))) :
    holds (closing chain dial outcome) := by
  have hending : ∀ outcome, holds (ending chain dial outcome) := by
    intro outcome
    cases outcome with
    | ok value => exact h.bind (hphase _) fun _ => h.afterReturnings value (hreturning value)
    | error error => exact h.bind (hphase _) fun _ => h.afterThrowings error none (hthrowing error)
  refine h.bind (hphase _) fun _ => h.bind (h.afters outcome hafter) fun outcome => ?_
  exact h.bind (hending outcome) fun result => h.bind (hphase _) fun _ => h.pure result

/-- A call has the property if it has it up to the end of its nest and each advice after that has it. -/
theorem phases (h : Composes holds) {chain : Chain} (hphase : ∀ phase, holds (enterPhase phase))
    (hinner : holds (Watched.inner chain dial))
    (hafter : ∀ step ∈ chain.afters, holds (observe dial .after step.sequence step.body))
    (hreturning : ∀ value, ∀ step ∈ chain.afterReturnings,
      holds (observe dial .afterReturning step.sequence (step.body value)))
    (hthrowing : ∀ error, ∀ step ∈ chain.afterThrowings,
      holds (observe dial .afterThrowing step.sequence (step.body error))) :
    holds (phases chain dial) :=
  h.bind hinner fun outcome => h.closing hphase outcome hafter hreturning hthrowing

end Composes

section

variable (dial : Dialler)

/-- Without its moments, an answer is the answer. -/
theorem run_answer (goOn : Watched Running CallResult) (request : Steering) :
    (answer dial goOn request).run = Steering.answer dial goOn.run request := by
  cases request <;> rfl

/-- Without its moments, proceeding is proceeding. -/
theorem run_proceed (next : Watched Running CallResult) :
    (proceed next).run = Running.proceed next.run := by
  funext running
  change (match running.invocation.frames with
    | [] => quiet (Running.refuse "<none>" .noAdvice)
    | frame :: outer => _).run running = _
  rw [Running.proceed]
  cases running.invocation.frames with
  | nil => rfl
  | cons frame outer =>
    simp only
    split
    · rfl
    · split <;> rfl

/-- Runs that only use the surroundings of a call do so one after the other. -/
theorem inWorld_bind {α β : Type} (first : Run World α) (next : α → Run World β) :
    (Run.inWorld first).bind (fun value => Run.inWorld (next value)) = Run.inWorld (first.bind next) := by
  funext running
  simp only [Run.inWorld, Run.bind]
  generalize first running.world = ran
  obtain ⟨outcome, world⟩ := ran
  cases outcome <;> rfl

/-- A run that only uses the surroundings of a call does so as well if it returns after a panic. -/
theorem inWorld_attempt {α : Type} (run : Run World α) :
    (Run.inWorld run).attempt = Run.inWorld run.attempt := by
  funext running
  simp only [Run.inWorld, Run.attempt]
  generalize run running.world = ran
  obtain ⟨outcome, world⟩ := ran
  cases outcome <;> rfl

/-- Code that only uses the surroundings of a call runs in them as it does in the call. -/
theorem inWorld_program {Request : Type} {Answer : Request → Type} {α : Type}
    (answer : (request : Request) → Run World (Answer request)) (program : Program Answer α) :
    program.run (fun request => Run.inWorld (answer request)) = Run.inWorld (program.run answer) := by
  induction program with
  | done value => rfl
  | panic message => rfl
  | ask request next ih =>
    simp only [Program.run_ask, ih]
    exact inWorld_bind (answer request) fun reply => (next reply).run answer
  | attempt request next ih =>
    simp only [Program.run_attempt, ih, inWorld_attempt]
    exact inWorld_bind (answer request).attempt fun reply => (next reply).run answer

/-- Without its moments, entering the target is entering the target. -/
theorem run_callTarget : (callTarget dial).run = Running.callTarget dial := by
  funext running
  change (match running.invocation.terminal with
    | none => _
    | some terminal => _ : Watched Running CallResult).run running = _
  rw [Running.callTarget]
  cases running.invocation.terminal with
  | none => rfl
  | some terminal =>
    simp only [run_bind, run_program, run_quiet, inWorld_program]
    rfl

/-- Without its moments, an around advice runs as it does. -/
theorem run_around (next : Watched Running CallResult) (step : Step AroundBody) :
    (around dial next step).run = Running.runAround dial next.run step := by
  simp only [around, Running.runAround, run_bind, run_program, run_quiet, run_answer, run_proceed]

/-- Without its moments, the nest runs as it does from the cursor on. -/
theorem run_proceedNext (arounds : List (Step AroundBody)) (bound : Nat) :
    (proceedNext dial arounds bound).run = Running.proceedNext dial arounds bound := by
  induction bound with
  | zero => rfl
  | succ bound ih =>
    funext running
    change (match arounds[running.invocation.cursor]? with
      | some step => _
      | none => callTarget dial).run running = _
    cases hstep : arounds[running.invocation.cursor]? with
    | none => simp only [Running.proceedNext, hstep, run_callTarget]
    | some step =>
      simp only [Running.proceedNext, hstep, run_bind, run_quiet, run_around, ih]
      rfl

/-- Without its moments, the nest runs as it does. -/
theorem run_nest (arounds : List (Step AroundBody)) :
    (nest dial arounds).run = Running.runNest dial arounds := by
  simp only [nest, Running.runNest, run_bind, run_quiet, run_proceedNext]

/-- Without its moments, a before advice runs as it does. -/
theorem run_before (step : Step BeforeBody) : (before dial step).run = Running.runBefore dial step := by
  simp only [before, Running.runBefore, run_bind, run_program, run_quiet, run_pure, run_answer,
    run_proceed]

/-- Without their moments, before advices run as they do. -/
theorem run_befores (steps : List (Step BeforeBody)) :
    (befores dial steps).run = Chain.runBefores dial steps := by
  induction steps with
  | nil => rfl
  | cons step steps ih =>
    rw [befores, Chain.runBefores, run_bind, run_before]
    congr 1
    funext result
    cases result with
    | error error => rfl
    | ok => exact ih

/-- Without its moments, an advice at the end of the call runs as it does. -/
theorem run_observe {α : Type} (kind : AdviceKind) (sequence : Nat) (body : ObservingProgram α) :
    (observe dial kind sequence body).run = Chain.observe dial kind sequence body := by
  funext running
  change (program Observing.steering _ body).run _ = _
  rw [run_program]
  simp only [run_quiet, inWorld_program]
  rfl

/-- Without their moments, after advices run as they do. -/
theorem run_afters (outcome : CallResult) (steps : List (Step AfterBody)) :
    (afters dial outcome steps).run = Chain.runAfters dial outcome steps := by
  induction steps with
  | nil => rfl
  | cons step steps ih =>
    rw [afters, Chain.runAfters, run_bind, run_observe]
    congr 1
    funext result
    cases result with
    | error error => cases outcome <;> rfl
    | ok => exact ih

/-- Without their moments, the advices for a returned value run as they do. -/
theorem run_afterReturnings (value : Value) (steps : List (Step AfterReturningBody)) :
    (afterReturnings dial value steps).run = Chain.runAfterReturnings dial value steps := by
  induction steps with
  | nil => rfl
  | cons step steps ih =>
    rw [afterReturnings, Chain.runAfterReturnings, run_bind, run_observe]
    congr 1
    funext result
    cases result with
    | error error => rfl
    | ok => exact ih

/-- Without their moments, the advices for an error run as they do. -/
theorem run_afterThrowings (error : AopError) (swallowed : Option Value)
    (steps : List (Step AfterThrowingBody)) :
    (afterThrowings dial error swallowed steps).run =
      Chain.runAfterThrowings dial error swallowed steps := by
  induction steps generalizing swallowed with
  | nil => cases swallowed <;> rfl
  | cons step steps ih =>
    rw [afterThrowings, Chain.runAfterThrowings, run_bind, run_observe]
    congr 1
    funext result
    cases result with
    | error replaced => rfl
    | ok disposition =>
      cases disposition with
      | rethrow => exact ih swallowed
      | swallow value =>
        cases swallowed with
        | some earlier => exact ih _
        | none => simp only [run_bind, run_quiet, ih]

/-- Without its moments, a call runs as it does up to the end of its nest. -/
theorem run_inner (chain : Chain) : (inner chain dial).run = chain.runInner dial := by
  rw [inner, Chain.runInner, run_bind, run_befores]
  congr 1
  funext result
  cases result with
  | error error => rfl
  | ok => simp only [run_bind, enterPhase, run_quiet, run_nest]

/-- Without their moments, the advices that depend on how the call ended run as they do. -/
theorem run_ending (chain : Chain) (outcome : CallResult) :
    (ending chain dial outcome).run = chain.runEnding dial outcome := by
  cases outcome with
  | ok value => simp only [ending, Chain.runEnding, run_bind, enterPhase, run_quiet, run_afterReturnings]
  | error error =>
    simp only [ending, Chain.runEnding, run_bind, enterPhase, run_quiet, run_afterThrowings]

/-- Without its moments, a call is the call as it is run. -/
theorem run_phases (chain : Chain) : (phases chain dial).run = chain.runPhases dial := by
  simp only [phases, Chain.runPhases, run_bind, enterPhase, run_quiet, run_pure, run_inner, run_afters,
    run_ending]

end

end Watched

end Interception
