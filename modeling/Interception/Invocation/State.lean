import Interception.Advice
import Interception.World

/-!
# Running invocations

An invocation is one call on its way through a chain. It carries the arguments until the target takes
them, a cursor that counts the around advices entered so far, and a frame for every before or around
advice that is running. The frame remembers whether its advice has proceeded. The target can be taken
only once.

A journal records what ran in which order. No behaviour can see it.
-/

namespace Interception

/-- What the target does with the arguments. -/
abbrev Terminal := Arguments → AmbientProgram (Except AopError Value)

/-- One advice of a chain. -/
structure Step (Body : Type) where
  /-- The name in messages. -/
  label : String
  /-- The sequence number of the advice in its registry. -/
  sequence : Nat
  /-- What the advice does. -/
  body : Body

/-- A before or around advice that is running. -/
structure Frame where
  /-- The advice's name in messages. -/
  label : String
  /-- The sequence number of the advice. -/
  sequence : Nat
  /-- Whether the advice may proceed at all. -/
  canProceed : Bool
  /-- Whether the advice has proceeded. -/
  proceeded : Bool
  /-- Whether the advice has tried to proceed again. -/
  misused : Bool
  deriving DecidableEq

/-- An entry of the journal of a call. -/
inductive JournalEntry where
  /-- The call reached a phase. -/
  | phase (phase : CallPhase)
  /-- An advice began to run. -/
  | advice (kind : AdviceKind) (sequence : Nat)
  /-- An around advice proceeded. -/
  | proceeded (sequence : Nat)
  /-- An advice was refused to proceed. -/
  | refused (sequence : Nat)
  /-- The target took the arguments. -/
  | target (arguments : Arguments)
  /-- The target was to be entered although it was taken. -/
  | targetTaken
  deriving DecidableEq

/-- One call on its way through a chain. -/
structure Invocation where
  /-- The method that was called. -/
  signature : CallSignature
  /-- The arguments, until the target takes them. -/
  arguments : Arguments
  /-- The number of around advices entered so far. -/
  cursor : Nat
  /-- The before and around advices that are running, innermost first. -/
  frames : List Frame
  /-- The target, until it is taken. -/
  terminal : Option Terminal
  /-- Whether the target has been called. -/
  targetCalled : Bool
  /-- The routing scope of the call. -/
  scope : RoutingScope
  /-- The phase of the call. -/
  phase : CallPhase
  /-- What ran so far, in order. -/
  journal : Array JournalEntry

namespace Invocation

/-- A call at its beginning. -/
def begin (signature : CallSignature) (arguments : Arguments) (terminal : Terminal)
    (scope : RoutingScope) : Invocation :=
  { signature, arguments, cursor := 0, frames := [], terminal := some terminal
    targetCalled := false, scope, phase := .entered, journal := #[.phase .entered] }

/-- The call as an advice sees it. -/
def view (invocation : Invocation) (scopes : RoutingStack) : CallView :=
  { signature := invocation.signature
    arguments := invocation.arguments
    phase := invocation.phase
    targetCalled := invocation.targetCalled
    routingKey := scopes.get invocation.scope }

/-- The description of a call. -/
def describe (invocation : Invocation) : String :=
  Text.describeRecord "Invocation"
    [("signature", Text.quoted invocation.signature.display),
     ("arguments", invocation.arguments.describe),
     ("cursor", toString invocation.cursor),
     ("state", invocation.phase.name),
     ("target_called", Text.describeBool invocation.targetCalled)]

/-- Writes to the journal. -/
def record (invocation : Invocation) (entry : JournalEntry) : Invocation :=
  { invocation with journal := invocation.journal.push entry }

/-- Moves on to a phase. -/
def enterPhase (invocation : Invocation) (phase : CallPhase) : Invocation :=
  { invocation.record (.phase phase) with phase }

/-- Opens a frame for an advice that begins to run. -/
def openFrame (invocation : Invocation) (kind : AdviceKind) (frame : Frame) : Invocation :=
  { invocation.record (.advice kind frame.sequence) with frames := frame :: invocation.frames }

/-- Closes the innermost frame. -/
def closeFrame (invocation : Invocation) : Invocation :=
  { invocation with frames := invocation.frames.tail }

end Invocation

/-- A call with its surroundings. -/
structure Running where
  /-- The call. -/
  invocation : Invocation
  /-- Its surroundings. -/
  world : World

namespace Running

/-- Changes the call and leaves the surroundings as they are. -/
def mapInvocation (running : Running) (f : Invocation → Invocation) : Running :=
  { running with invocation := f running.invocation }

/-- Writes to the log. -/
def log (running : Running) (record : LogRecord) : Running :=
  { running with world := running.world.log record }

end Running

/-- Runs in the surroundings of a call and leaves the call as it is. -/
def Run.inWorld {α : Type} (run : Run World α) : Run Running α := fun running =>
  let (outcome, world) := run running.world
  (outcome, { running with world })

/-- Answers a request of an advice that only sees the call. -/
def Observing.answer (dial : Dialler) (invocation : Invocation) :
    (request : Observing) → Run World request.Answer
  | ambient request => request.answer dial
  | view => Run.read fun world => invocation.view world.scopes
  | description => Run.read fun _ => invocation.describe

/-- Answers a request of an advice that steers the call. What it means to proceed is given. -/
def Steering.answer (dial : Dialler) (goOn : Run Running (Except AopError Value)) :
    (request : Steering) → Run Running request.Answer
  | ambient request => Run.inWorld (request.answer dial)
  | view => Run.read fun running => running.invocation.view running.world.scopes
  | description => Run.read fun running => running.invocation.describe
  | setArguments arguments => Run.modify (·.mapInvocation ({ · with arguments }))
  | setRoutingKey key => Run.modify fun running =>
    { running with
      world := { running.world with scopes := running.world.scopes.set running.invocation.scope key } }
  | proceed => goOn

end Interception
