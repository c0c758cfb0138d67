import Interception.Aspects.Metric
import Interception.Proofs.ScopeDiscipline

/-!
# Code that depends on its own call only

Some requests are silent: they write to the log, let time pass, read the clock, draw a random number, or use
shared memory. Their answers depend on what else happened in the program, and nobody sees in another call that
they were made, unless that call makes silent requests as well. Two programs are akin if they make the same
other requests with the same answers, whatever their silent requests are answered, and end alike. A program
that is akin to itself depends on its own call only: on what it sees of the call, on its routing keys, and on
what came of proceeding and of the calls that it makes.

This says nothing about how a program is written. A logging aspect reads the clock and draws random numbers, but
only its log records depend on them, so it is contained as well, and so is the metric aspect.
-/

namespace Interception

section

variable {Request : Type} {Answer : Request → Type} {α β : Type} {silent : Request → Prop}

/-- Two programs differ in silent requests only, whatever these are answered. -/
inductive Program.Akin (silent : Request → Prop) : Program Answer α → Program Answer α → Prop where
  /-- Both are finished. -/
  | done (value : α) : Akin silent (.done value) (.done value)
  /-- Both break off. -/
  | panic (message : String) : Akin silent (.panic message) (.panic message)
  /-- Both make the same request, which is not silent. -/
  | ask {request : Request} {next next' : Answer request → Program Answer α} : ¬ silent request →
    (∀ reply, Akin silent (next reply) (next' reply)) → Akin silent (.ask request next) (.ask request next')
  /-- Both attempt the same request, which is not silent. -/
  | attempt {request : Request} {next next' : Except String (Answer request) → Program Answer α} :
    ¬ silent request → (∀ reply, Akin silent (next reply) (next' reply)) →
    Akin silent (.attempt request next) (.attempt request next')
  /-- The first makes a silent request. -/
  | left {request : Request} {next : Answer request → Program Answer α} {program' : Program Answer α} :
    silent request → (∀ reply, Akin silent (next reply) program') → Akin silent (.ask request next) program'
  /-- The second makes a silent request. -/
  | right {request : Request} {program : Program Answer α} {next' : Answer request → Program Answer α} :
    silent request → (∀ reply, Akin silent program (next' reply)) → Akin silent program (.ask request next')
  /-- The first attempts a silent request, which never breaks off. -/
  | leftAttempt {request : Request} {next : Except String (Answer request) → Program Answer α}
    {program' : Program Answer α} : silent request → (∀ reply, Akin silent (next (.ok reply)) program') →
    Akin silent (.attempt request next) program'
  /-- The second attempts a silent request, which never breaks off. -/
  | rightAttempt {request : Request} {program : Program Answer α}
    {next' : Except String (Answer request) → Program Answer α} : silent request →
    (∀ reply, Akin silent program (next' (.ok reply))) → Akin silent program (.attempt request next')

namespace Program.Akin

/-- Programs that are akin are so one after the other. -/
theorem bind {first first' : Program Answer α} {next next' : α → Program Answer β}
    (h : Akin silent first first') (hnext : ∀ value, Akin silent (next value) (next' value)) :
    Akin silent (first >>= next) (first' >>= next') := by
  induction h with
  | done value => exact hnext value
  | panic message => exact .panic message
  | ask hloud _ ih => exact .ask hloud ih
  | attempt hloud _ ih => exact .attempt hloud ih
  | left hsilent _ ih => exact .left hsilent ih
  | right hsilent _ ih => exact .right hsilent ih
  | leftAttempt hsilent _ ih => exact .leftAttempt hsilent ih
  | rightAttempt hsilent _ ih => exact .rightAttempt hsilent ih

/-- Silent requests of both programs, whatever they are answered, lead on to programs that are akin. -/
theorem both {request request' : Request} {next : Answer request → Program Answer α}
    {next' : Answer request' → Program Answer α} (h : silent request) (h' : silent request')
    (hnext : ∀ reply reply', Akin silent (next reply) (next' reply')) :
    Akin silent (.ask request next) (.ask request' next') :=
  .left h fun reply => .right h' fun reply' => hnext reply reply'

end Program.Akin

end

/-- A request that does not concern the call of the code that makes it. -/
def Ambient.IsSilent : Ambient → Prop
  | .log _ | .sleep _ | .clock | .draw | .load _ | .store _ _ => True
  | .note _ | .routing | .call _ | .count _ _ _ => False

/-- A request of an advice that only sees the call it belongs to and that does not concern this call. -/
def Observing.IsSilent : Observing → Prop
  | .ambient request => request.IsSilent
  | .view | .description => False

/-- A request of an advice that steers the call it belongs to and that does not concern this call. -/
def Steering.IsSilent : Steering → Prop
  | .ambient request => request.IsSilent
  | .view | .description | .setArguments _ | .setRoutingKey _ | .proceed => False

/-- Code of a target that depends on its own call only. -/
def AmbientProgram.IsContained {α : Type} (program : AmbientProgram α) : Prop :=
  program.Akin Ambient.IsSilent program

/-- Code of an advice that only sees its call and depends on nothing else. -/
def ObservingProgram.IsContained {α : Type} (program : ObservingProgram α) : Prop :=
  program.Akin Observing.IsSilent program

/-- Code of an advice that steers its call and depends on nothing else. -/
def SteeringProgram.IsContained {α : Type} (program : SteeringProgram α) : Prop :=
  program.Akin Steering.IsSilent program

/-- The metric aspect depends on its own call only. -/
theorem MetricAspect.around_isContained (aspect : MetricAspect) :
    SteeringProgram.IsContained aspect.around :=
  .ask nofun fun _ => .ask nofun fun result => .ask nofun fun _ => .done result

/-- What a logging aspect reports is seen in the log only. -/
theorem LoggingAspect.report_akin (aspect : LoggingAspect) (operation args : String)
    (result : Except AopError Value) (duration duration' : Nat) (routingKey : Option String) :
    Program.Akin Steering.IsSilent (aspect.report operation args result duration routingKey)
      (aspect.report operation args result duration' routingKey) := by
  refine .both trivial trivial fun (drawn drawn' : Float32) => ?_
  have hlog : ∀ {reports reports' : Prop} (decides : Decidable reports) (decides' : Decidable reports')
      (record record' : LogRecord), Program.Akin Steering.IsSilent
        (@ite _ reports decides (Steering.ask (.log record)) (pure ()))
        (@ite _ reports' decides' (Steering.ask (.log record')) (pure ())) := by
    intro reports reports' decides decides' record record'
    cases decides with
    | isTrue =>
      cases decides' with
      | isTrue => exact .both trivial trivial fun _ _ => .done ()
      | isFalse => exact .left trivial fun _ => .done ()
    | isFalse =>
      cases decides' with
      | isTrue => exact .right trivial fun _ => .done ()
      | isFalse => exact .done ()
  cases result with
  | ok value => exact hlog _ _ _ _
  | error error => exact hlog _ _ _ _

/-- A logging aspect depends on its own call only, log records apart. -/
theorem LoggingAspect.around_isContained (aspect : LoggingAspect) :
    SteeringProgram.IsContained aspect.around := by
  refine .ask nofun fun before => .both trivial trivial fun start start' => .ask nofun fun result => ?_
  refine .both trivial trivial fun stop stop' => .ask nofun fun after => ?_
  exact (aspect.report_akin _ _ result _ _ _).bind fun _ => .done result

/-- A method whose body depends on its own call only does so as the end of a chain. -/
theorem TargetMethod.terminal_isContained {method : TargetMethod}
    (h : ∀ values rest, (method.body values rest).IsContained) (arguments : Arguments) :
    (method.terminal arguments).IsContained := by
  unfold TargetMethod.terminal
  split
  · exact .done _
  · refine Program.Akin.bind (h _ _) fun result => ?_
    cases result <;> exact .done _

/-- A chain all of whose advices depend on their own call only. -/
structure Chain.IsContained (chain : Chain) : Prop where
  /-- The before advices do. -/
  befores : ∀ step ∈ chain.befores, SteeringProgram.IsContained step.body
  /-- The around advices do. -/
  arounds : ∀ step ∈ chain.arounds, SteeringProgram.IsContained step.body
  /-- The after advices do. -/
  afters : ∀ step ∈ chain.afters, ObservingProgram.IsContained step.body
  /-- The advices for a returned value do. -/
  afterReturnings : ∀ step ∈ chain.afterReturnings, ∀ value, (step.body value).IsContained
  /-- The advices for an error do. -/
  afterThrowings : ∀ step ∈ chain.afterThrowings, ∀ error, (step.body error).IsContained

/-- Services all of whose advices and targets depend on their own calls only. -/
structure Directory.IsContained (directory : Directory) : Prop where
  /-- The advices do. -/
  chains : ∀ named ∈ directory.services, ∀ entry ∈ named.2.proxy.methods, entry.chain.IsContained
  /-- The targets do. -/
  targets : ∀ named ∈ directory.services, ∀ method ∈ named.2.methods, ∀ values rest,
    (method.2.body values rest).IsContained

end Interception
