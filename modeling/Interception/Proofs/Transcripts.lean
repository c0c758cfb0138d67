import Interception.Proofs.DialledCalls
import Interception.Proofs.Proceedings
import Interception.Proofs.ScopeDiscipline

/-!
# Transcripts of calls

A transcript lists what happens in a call, in order: which advices begin to run, what the target is given, what
code sees of the call and of the routing keys, what it does to the call, when it asks to proceed, and which
calls it makes. The transcript of a call that code makes stands in between, and so does what advices and the
target do when an advice proceeds. Silent requests are left out.

Transcripts follow the runs: they are put together as the parts of a call are, and each part is told in the
state in which it is run. What is told of a call by name is given, until calls are nested in each other.
-/

namespace Interception

/-- Something that happens in a call. -/
inductive Happening where
  /-- A call by name begins. -/
  | called (request : ProxyCall)
  /-- A call by name ends, however it does. -/
  | ended (outcome : Outcome CallResult)
  /-- An advice begins to run. -/
  | began (kind : AdviceKind) (sequence : Nat)
  /-- The target of a call takes the arguments that are left to it. -/
  | entered (request : ProxyCall) (arguments : Arguments)
  /-- Code looks at the call it belongs to. -/
  | viewed (view : CallView)
  /-- Code reads the description of the call. -/
  | described (text : String)
  /-- Code reads the innermost routing key and the number of open scopes. -/
  | routed (current : Option String) (scopes : Nat)
  /-- Code replaces the arguments of the call. -/
  | replaced (arguments : Arguments)
  /-- Code sets or clears the routing key of the call. -/
  | keyed (key : Option String)
  /-- Code asks to proceed. -/
  | asked
  /-- Code leaves a note. -/
  | noted (note : Note)
  /-- Code counts a finished call in a meter family. -/
  | counted (family : Nat) (method : String) (succeeded : Bool)

/-- The routing key that code sees. -/
def Happening.key? : Happening → Option (Option String)
  | .viewed view => some view.routingKey
  | .routed current _ => some current
  | _ => none

/-- What is told of calls by name. -/
abbrev Teller := ProxyCall → World → List Happening

/-- What happens when any code makes a request. -/
def Ambient.happenings (tell : Teller) : Ambient → World → List Happening
  | .note left, _ => [.noted left]
  | .routing, world => [.routed world.scopes.current world.scopes.size]
  | .call request, world => tell request world
  | .count family method succeeded, _ => [.counted family method succeeded]
  | _, _ => []

/-- What happens when an advice makes a request that only sees the call it belongs to. -/
def Observing.happenings (tell : Teller) (invocation : Invocation) : Observing → World → List Happening
  | .ambient request, world => request.happenings tell world
  | .view, world => [.viewed (invocation.view world.scopes)]
  | .description, _ => [.described invocation.describe]

/-- What happens when an advice makes a request that steers the call it belongs to. What happens when it
proceeds is given. -/
def Steering.happenings (tell : Teller) (goOn : Running → List Happening) :
    Steering → Running → List Happening
  | .ambient request, running => request.happenings tell running.world
  | .view, running => [.viewed (running.invocation.view running.world.scopes)]
  | .description, running => [.described running.invocation.describe]
  | .setArguments arguments, _ => [.replaced arguments]
  | .setRoutingKey key, _ => [.keyed key]
  | .proceed, running => .asked :: goOn running

namespace Running

/-- What happens when the innermost advice asks to proceed: nothing if it may not. -/
def proceedTranscript (next : Running → List Happening) (running : Running) : List Happening :=
  match running.granted? with
  | some granted => next granted
  | none => []

/-- What happens in a before advice. -/
def beforeTranscript (dial : Dialler) (tell : Teller) (step : Step BeforeBody) (running : Running) :
    List Happening :=
  .began .before step.sequence ::
    step.body.trace (Steering.answer dial (proceed Run.exhausted))
      (Steering.happenings tell (proceedTranscript fun _ => []))
      (running.mapInvocation (·.openFrame .before ⟨step.label, step.sequence, false, false, false⟩))

/-- What happens when the target is entered: nothing if it is taken. -/
def targetTranscript (dial : Dialler) (tell : Teller) (request : ProxyCall) (running : Running) :
    List Happening :=
  match running.invocation.terminal with
  | none => []
  | some terminal => .entered request running.invocation.arguments ::
    (terminal running.invocation.arguments).trace (Ambient.answer dial) (Ambient.happenings tell) running.world

/-- What happens in an around advice. What it proceeds to is given, and what happens then. -/
def aroundTranscript (dial : Dialler) (tell : Teller) (next : Run Running CallResult)
    (inner : Running → List Happening) (step : Step AroundBody) (running : Running) : List Happening :=
  .began .around step.sequence ::
    step.body.trace (Steering.answer dial (proceed next)) (Steering.happenings tell (proceedTranscript inner))
      (running.mapInvocation (·.openFrame .around ⟨step.label, step.sequence, true, false, false⟩))

/-- What happens in a nest, from the cursor on. -/
def nestTranscript (dial : Dialler) (tell : Teller) (request : ProxyCall) (arounds : List (Step AroundBody)) :
    (bound : Nat) → Running → List Happening
  | 0, _ => []
  | bound + 1, running =>
    match arounds[running.invocation.cursor]? with
    | some step => aroundTranscript dial tell (proceedNext dial arounds bound)
      (nestTranscript dial tell request arounds bound) step
      (running.mapInvocation fun invocation => { invocation with cursor := invocation.cursor + 1 })
    | none => targetTranscript dial tell request running

end Running

namespace Chain

/-- What happens in before advices, up to the first that fails. -/
def beforesTranscript (dial : Dialler) (tell : Teller) : List (Step BeforeBody) → Running → List Happening
  | [], _ => []
  | step :: steps, running =>
    Running.beforeTranscript dial tell step running ++ (Running.runBefore dial step).reading []
      (fun result => match result with
        | .ok () => beforesTranscript dial tell steps
        | .error _ => fun _ => []) running

/-- What happens in an advice at the end of the call it belongs to. -/
def observeTranscript {α : Type} (dial : Dialler) (tell : Teller) (kind : AdviceKind) (sequence : Nat)
    (program : ObservingProgram α) (running : Running) : List Happening :=
  let invocation := running.invocation.record (.advice kind sequence)
  .began kind sequence ::
    program.trace (Observing.answer dial invocation) (Observing.happenings tell invocation) running.world

/-- What happens in after advices, up to the first that fails. -/
def aftersTranscript (dial : Dialler) (tell : Teller) : List (Step AfterBody) → Running → List Happening
  | [], _ => []
  | step :: steps, running =>
    observeTranscript dial tell .after step.sequence step.body running ++
      (observe dial .after step.sequence step.body).reading []
        (fun result => match result with
          | .ok () => aftersTranscript dial tell steps
          | .error _ => fun _ => []) running

/-- What happens in the advices for a returned value, up to the first that fails. -/
def afterReturningsTranscript (dial : Dialler) (tell : Teller) (value : Value) :
    List (Step AfterReturningBody) → Running → List Happening
  | [], _ => []
  | step :: steps, running =>
    observeTranscript dial tell .afterReturning step.sequence (step.body value) running ++
      (observe dial .afterReturning step.sequence (step.body value)).reading []
        (fun result => match result with
          | .ok () => afterReturningsTranscript dial tell value steps
          | .error _ => fun _ => []) running

/-- What happens in the advices for an error, up to the first that fails. -/
def afterThrowingsTranscript (dial : Dialler) (tell : Teller) (error : AopError) :
    (swallowed : Option Value) → List (Step AfterThrowingBody) → Running → List Happening
  | _, [], _ => []
  | swallowed, step :: steps, running =>
    observeTranscript dial tell .afterThrowing step.sequence (step.body error) running ++
      (observe dial .afterThrowing step.sequence (step.body error)).reading []
        (fun result => match result, swallowed with
          | .error _, _ => fun _ => []
          | .ok .rethrow, swallowed => afterThrowingsTranscript dial tell error swallowed steps
          | .ok (.swallow _), some earlier => afterThrowingsTranscript dial tell error (some earlier) steps
          | .ok (.swallow value), none => fun running =>
            afterThrowingsTranscript dial tell error (some value) steps
              (running.log (.debug ("advice '" ++ step.label ++ "' swallowed error on " ++
                running.invocation.signature.display ++ ": " ++ error.message)))) running

/-- What happens up to the end of the nest. -/
def innerTranscript (chain : Chain) (dial : Dialler) (tell : Teller) (request : ProxyCall)
    (running : Running) : List Happening :=
  beforesTranscript dial tell chain.befores running ++ (runBefores dial chain.befores).reading []
    (fun result => match result with
      | .ok () => fun ready => Running.nestTranscript dial tell request chain.arounds
        (chain.arounds.length + 1) ((ready.mapInvocation (·.enterPhase .beforeDone)).mapInvocation
          (·.enterPhase .aroundNestRunning))
      | .error _ => fun _ => []) running

/-- What happens in the advices that depend on how the call ended. -/
def endingTranscript (chain : Chain) (dial : Dialler) (tell : Teller) :
    CallResult → Running → List Happening
  | .ok value, running => afterReturningsTranscript dial tell value chain.afterReturnings
    (running.mapInvocation (·.enterPhase .afterReturning))
  | .error error, running => afterThrowingsTranscript dial tell error none chain.afterThrowings
    (running.mapInvocation (·.enterPhase .afterThrowing))

/-- What happens after the nest. -/
def outerTranscript (chain : Chain) (dial : Dialler) (tell : Teller) (outcome : CallResult)
    (running : Running) : List Happening :=
  let unwinding := running.mapInvocation (·.enterPhase .unwinding)
  aftersTranscript dial tell chain.afters unwinding ++
    (runAfters dial outcome chain.afters).reading [] (chain.endingTranscript dial tell) unwinding

end Chain

/-- What happens in a call through a chain that was made by name. -/
def ChainCall.transcript (call : ChainCall) (dial : Dialler) (tell : Teller) (request : ProxyCall)
    (world : World) : List Happening :=
  call.chain.innerTranscript dial tell request (call.start world) ++
    (call.chain.runInner dial).reading [] (call.chain.outerTranscript dial tell) (call.start world)

/-- What happens in a call by name, and in the calls that are nested in it up to a depth. -/
def Directory.transcript (directory : Directory) : (depth : Nat) → Teller
  | 0 => fun request _ => [.called request, .ended .exhausted]
  | depth + 1 => fun request world =>
    .called request ::
      ((directory.callee? request).elim [] fun callee =>
        callee.transcript (directory.dial depth) (directory.transcript depth) request world) ++
      [.ended (directory.dial (depth + 1) request world).1]

end Interception
