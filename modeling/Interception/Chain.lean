import Interception.Invocation.Nest
import Interception.Registry

/-!
# Interception chains

A chain holds the advices for one method, divided by kind. Executing it runs the before advices up to the
first failure, then, if all succeeded, the nest of around advices with the target inside. The after
advices run in any case, and the first that fails replaces the outcome and ends that phase. Then either
the advices for a returned value or the advices for an error run.

Every advice for errors is given the same error. The value of the first that swallows it becomes the
result of the call; one that fails ends the phase with its own error.

Every call has a routing scope of its own, which is left however the call ends.
-/

namespace Interception

/-- The advices for one method. -/
structure Chain where
  /-- All advices in the order in which they were resolved. -/
  advices : List RegisteredAdvice
  /-- The before advices in order. -/
  befores : List (Step BeforeBody)
  /-- The around advices from the outermost to the innermost. -/
  arounds : List (Step AroundBody)
  /-- The after advices in order. -/
  afters : List (Step AfterBody)
  /-- The advices for a returned value in order. -/
  afterReturnings : List (Step AfterReturningBody)
  /-- The advices for an error in order. -/
  afterThrowings : List (Step AfterThrowingBody)

namespace Chain

/-- The before advice in a registered advice. -/
def before? (advice : RegisteredAdvice) : Option (Step BeforeBody) :=
  match advice.behavior with
  | .before body => some ⟨advice.label, advice.sequence, body⟩
  | _ => none

/-- The around advice in a registered advice. -/
def around? (advice : RegisteredAdvice) : Option (Step AroundBody) :=
  match advice.behavior with
  | .around body => some ⟨advice.label, advice.sequence, body⟩
  | _ => none

/-- The after advice in a registered advice. -/
def after? (advice : RegisteredAdvice) : Option (Step AfterBody) :=
  match advice.behavior with
  | .after body => some ⟨advice.label, advice.sequence, body⟩
  | _ => none

/-- The advice for a returned value in a registered advice. -/
def afterReturning? (advice : RegisteredAdvice) : Option (Step AfterReturningBody) :=
  match advice.behavior with
  | .afterReturning body => some ⟨advice.label, advice.sequence, body⟩
  | _ => none

/-- The advice for an error in a registered advice. -/
def afterThrowing? (advice : RegisteredAdvice) : Option (Step AfterThrowingBody) :=
  match advice.behavior with
  | .afterThrowing body => some ⟨advice.label, advice.sequence, body⟩
  | _ => none

/-- The chain of resolved advices. Advices of one kind keep their order. -/
def ofResolved (advices : List RegisteredAdvice) : Chain :=
  { advices
    befores := advices.filterMap before?
    arounds := advices.filterMap around?
    afters := advices.filterMap after?
    afterReturnings := advices.filterMap afterReturning?
    afterThrowings := advices.filterMap afterThrowing? }

/-- The number of advices. -/
def size (chain : Chain) : Nat := chain.advices.length

/-- The description of a chain. -/
def describe (chain : Chain) : String :=
  Text.describeRecord "InterceptionChain"
    [("advices", Text.describeList (chain.advices.map RegisteredAdvice.describe))]

/-- Runs before advices up to the first that fails. -/
def runBefores (dial : Dialler) : List (Step BeforeBody) → Run Running (Except AopError Unit)
  | [] => pure (.ok ())
  | step :: steps => do
    match ← Running.runBefore dial step with
    | .error error => pure (.error error)
    | .ok () => runBefores dial steps

/-- Runs an advice at the end of the call. It sees the call and cannot change it. -/
def observe {α : Type} (dial : Dialler) (kind : AdviceKind) (sequence : Nat)
    (program : ObservingProgram α) : Run Running α := fun running =>
  let running := running.mapInvocation (·.record (.advice kind sequence))
  Run.inWorld (program.run (Observing.answer dial running.invocation)) running

/-- Runs after advices up to the first that fails, whose error replaces the outcome. -/
def runAfters (dial : Dialler) (outcome : CallResult) : List (Step AfterBody) → Run Running CallResult
  | [] => pure outcome
  | step :: steps => do
    match ← observe dial .after step.sequence step.body with
    | .ok () => runAfters dial outcome steps
    | .error error =>
      match outcome with
      | .ok _ => pure (.error error)
      | .error replaced => fun running =>
        (.returned (.error error),
          running.log (.warn ("after advice '" ++ step.label ++ "' failed on " ++
            running.invocation.signature.display ++ ", replacing error: " ++ replaced.message)))

/-- Runs the advices for a returned value up to the first that fails. -/
def runAfterReturnings (dial : Dialler) (value : Value) :
    List (Step AfterReturningBody) → Run Running CallResult
  | [] => pure (.ok value)
  | step :: steps => do
    match ← observe dial .afterReturning step.sequence (step.body value) with
    | .ok () => runAfterReturnings dial value steps
    | .error error => pure (.error error)

/-- Runs the advices for an error up to the first that fails. `swallowed` is the value of the first
that swallowed the error. -/
def runAfterThrowings (dial : Dialler) (error : AopError) (swallowed : Option Value) :
    List (Step AfterThrowingBody) → Run Running CallResult
  | [] =>
    match swallowed with
    | some value => pure (.ok value)
    | none => pure (.error error)
  | step :: steps => do
    match ← observe dial .afterThrowing step.sequence (step.body error) with
    | .error replaced => pure (.error replaced)
    | .ok .rethrow => runAfterThrowings dial error swallowed steps
    | .ok (.swallow value) =>
      match swallowed with
      | some _ => runAfterThrowings dial error swallowed steps
      | none => do
        Run.modify fun running =>
          running.log (.debug ("advice '" ++ step.label ++ "' swallowed error on " ++
            running.invocation.signature.display ++ ": " ++ error.message))
        runAfterThrowings dial error (some value) steps

/-- Moves on to a phase of the call. -/
def enterPhase (phase : CallPhase) : Run Running Unit :=
  Run.modify (·.mapInvocation (·.enterPhase phase))

/-- Runs the before advices and, if all succeed, the nest. -/
def runInner (chain : Chain) (dial : Dialler) : Run Running CallResult := do
  match ← runBefores dial chain.befores with
  | .error error => pure (.error error)
  | .ok () =>
    enterPhase .beforeDone
    Running.runNest dial chain.arounds

/-- Runs the advices that depend on how the call ended. -/
def runEnding (chain : Chain) (dial : Dialler) : CallResult → Run Running CallResult
  | .ok value => do
    enterPhase .afterReturning
    runAfterReturnings dial value chain.afterReturnings
  | .error error => do
    enterPhase .afterThrowing
    runAfterThrowings dial error none chain.afterThrowings

/-- Runs all phases of a call. -/
def runPhases (chain : Chain) (dial : Dialler) : Run Running CallResult := do
  let outcome ← chain.runInner dial
  enterPhase .unwinding
  let outcome ← runAfters dial outcome chain.afters
  let result ← chain.runEnding dial outcome
  enterPhase .completed
  pure result

/-- A call at its beginning, in a routing scope of its own. -/
def start (signature : CallSignature) (arguments : Arguments) (terminal : Terminal)
    (world : World) : Running :=
  let (scope, scopes) := world.scopes.enter
  ⟨.begin signature arguments terminal scope, { world with scopes }⟩

/-- Executes the chain for one call. The routing scope of the call is left however the call ends. -/
def execute (chain : Chain) (dial : Dialler) (signature : CallSignature) (arguments : Arguments)
    (terminal : Terminal) : Run World CallResult := fun world =>
  let (outcome, running) := chain.runPhases dial (start signature arguments terminal world)
  (outcome,
    { running.world with scopes := running.world.scopes.leave running.invocation.scope })

end Chain

end Interception
