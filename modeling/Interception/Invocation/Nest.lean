import Interception.Invocation.State

/-!
# The nest of around advices

The around advices of a call enclose each other, and the innermost encloses the target. All of them work
on one invocation: proceeding enters the around advice at the cursor, or the target when no advice is
left there. An advice may proceed once. Any further attempt runs nothing and turns the result of the
advice into an error that names it, whatever the advice makes of it, and so does a failure of an advice
that never proceeded.

How often an advice proceeded is told by its frame, which is taken to be the innermost one. The frame of an
advice is closed when the advice returns. A panic leaves the frames of the advices that it breaks off
open, so after an advice has gone on from a panic, the innermost frame is one of these.

The recursion is bounded by the number of around advices, because the cursor moves forward with every
advice that is entered.
-/

namespace Interception

/-- What a chain gives back for a call. -/
abbrev CallResult := Except AopError Value

namespace Running

/-- Refuses to proceed: nothing runs, and the caller gets an error that names its advice. -/
def refuse (label : String) (misuse : Misuse) : Run Running CallResult :=
  Run.pure (.error (.proceedMisuse label misuse none))

/-- Proceeds for the innermost advice that is running, if it may. -/
def proceed (next : Run Running CallResult) : Run Running CallResult := fun running =>
  match running.invocation.frames with
  | [] => refuse "<none>" .noAdvice running
  | frame :: outer =>
    if !frame.canProceed then
      refuse frame.label .notAround (running.mapInvocation (·.record (.refused frame.sequence)))
    else if frame.proceeded then
      refuse frame.label .repeated
        ((running.mapInvocation fun invocation =>
            { invocation.record (.refused frame.sequence) with
              frames := { frame with misused := true } :: outer }).log
          (.warn ("advice '" ++ frame.label ++ "' called proceed more than once on " ++
            running.invocation.signature.display)))
    else
      next (running.mapInvocation fun invocation =>
        { invocation.record (.proceeded frame.sequence) with
          frames := { frame with proceeded := true } :: outer })

/-- Enters the target with the arguments that are there, which the invocation loses. -/
def callTarget (dial : Dialler) : Run Running CallResult := fun running =>
  match running.invocation.terminal with
  | none =>
    refuse ((running.invocation.frames.head?.map Frame.label).getD "") .targetTaken
      (running.mapInvocation (·.record .targetTaken))
  | some terminal =>
    let arguments := running.invocation.arguments
    let running := running.mapInvocation fun invocation =>
      { (invocation.enterPhase .targetCalled).record (.target arguments) with
        targetCalled := true
        terminal := none
        arguments := .empty }
    Run.inWorld ((terminal arguments).run (Ambient.answer dial)) running

/-- The verdict on what an around advice returned, given its name and the frame that was closed for it: the
advice is blamed when the frame tells that it proceeded more than once, or that it failed without having
proceeded. -/
def judge (signature : CallSignature) (label : String) (frame : Frame) (result : CallResult) :
    Run Running CallResult :=
  if frame.misused then
    Run.pure (.error (.proceedMisuse label .repeated
      (match result with
        | .ok _ => none
        | .error error => some error)))
  else
    match result with
    | .ok value => Run.pure (.ok value)
    | .error error =>
      if frame.proceeded then Run.pure (.error error)
      else fun running =>
        (.returned (.error (.proceedMisuse label .unproceeded (some error))),
          running.log (.warn ("advice '" ++ label ++ "' failed without calling proceed on " ++
            signature.display ++ ": " ++ error.message)))

/-- Closes the innermost frame and returns it. -/
def closeFrame (step : Step AroundBody) : Run Running Frame := fun running =>
  (.returned (running.invocation.frames.headD ⟨step.label, step.sequence, true, false, false⟩),
    running.mapInvocation Invocation.closeFrame)

/-- Runs one around advice. What it proceeds to is given. -/
def runAround (dial : Dialler) (next : Run Running CallResult) (step : Step AroundBody) :
    Run Running CallResult := do
  Run.modify (·.mapInvocation (·.openFrame .around ⟨step.label, step.sequence, true, false, false⟩))
  let result ← step.body.run (Steering.answer dial (proceed next))
  let frame ← closeFrame step
  let signature ← Run.read fun running => running.invocation.signature
  judge signature step.label frame result

/-- Enters the around advice at the cursor, or the target if no advice is left. `bound` is above the
number of advices left. -/
def proceedNext (dial : Dialler) (arounds : List (Step AroundBody)) :
    (bound : Nat) → Run Running CallResult
  | 0 => Run.exhausted
  | bound + 1 => fun running =>
    match arounds[running.invocation.cursor]? with
    | some step =>
      runAround dial (proceedNext dial arounds bound) step
        (running.mapInvocation fun invocation => { invocation with cursor := invocation.cursor + 1 })
    | none => callTarget dial running

/-- Runs the whole nest. -/
def runNest (dial : Dialler) (arounds : List (Step AroundBody)) : Run Running CallResult := do
  Run.modify (·.mapInvocation (·.enterPhase .aroundNestRunning))
  proceedNext dial arounds (arounds.length + 1)

/-- Runs one before advice, which may not proceed. -/
def runBefore (dial : Dialler) (step : Step BeforeBody) : Run Running (Except AopError Unit) := do
  Run.modify (·.mapInvocation (·.openFrame .before ⟨step.label, step.sequence, false, false, false⟩))
  let result ← step.body.run (Steering.answer dial (proceed Run.exhausted))
  Run.modify (·.mapInvocation Invocation.closeFrame)
  pure result

end Running

end Interception
