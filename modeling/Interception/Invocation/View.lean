import Interception.Arguments
import Interception.Signature

/-!
# What an advice sees of a call

While a call is running it passes through a fixed sequence of phases. An advice sees the phase, the
signature, the arguments that are still there, the routing key of the call and whether the target has
been called.
-/

namespace Interception

/-- The phases of a call in the order in which they may be reached. -/
inductive CallPhase where
  /-- The call has begun. -/
  | entered
  /-- All before advices succeeded. -/
  | beforeDone
  /-- The around advices are running. -/
  | aroundNestRunning
  /-- The target has been called. -/
  | targetCalled
  /-- The after advices are running. -/
  | unwinding
  /-- The advices for a returned value are running. -/
  | afterReturning
  /-- The advices for an error are running. -/
  | afterThrowing
  /-- The call has ended. -/
  | completed
  deriving DecidableEq

/-- The name of a phase. -/
def CallPhase.name : CallPhase → String
  | entered => "Entered"
  | beforeDone => "BeforeDone"
  | aroundNestRunning => "AroundNestRunning"
  | targetCalled => "TargetCalled"
  | unwinding => "Unwinding"
  | afterReturning => "AfterReturning"
  | afterThrowing => "AfterThrowing"
  | completed => "Completed"

/-- A call as it shows itself to an advice. -/
structure CallView where
  /-- The method that was called. -/
  signature : CallSignature
  /-- The arguments, which are gone once the target has taken them. -/
  arguments : Arguments
  /-- The phase of the call. -/
  phase : CallPhase
  /-- Whether the target has been called. -/
  targetCalled : Bool
  /-- The routing key of the call. -/
  routingKey : Option String
  deriving DecidableEq

end Interception
