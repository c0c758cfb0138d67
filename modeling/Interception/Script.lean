import Interception.Directory

/-!
# Scripted behaviours

A script is a list of actions for an advice or a method of a target. The actions run in order until one
of them ends the script. Results of proceeding and of other calls are kept in named registers; using the
content of a register takes it out.

Where a script runs decides what it can reach. An action that is out of reach does nothing, and what the
ending of a script means depends on the place as well.
-/

namespace Interception

/-- An expression for a value. -/
inductive Operand where
  /-- A constant. -/
  | constant (value : Value)
  /-- An argument of the call. -/
  | argument (index : Nat)
  /-- An unsigned argument of 64 bits, less one, in the arithmetic of words. -/
  | decremented (index : Nat)
  deriving DecidableEq

/-- The value of an expression. A missing or unfit argument counts as no content. -/
def Operand.eval (arguments : Arguments) : Operand → Value
  | constant value => value
  | argument index => (arguments.get? index).getD .unit
  | decremented index =>
    match arguments.get? index with
    | some (.u64 n) => .u64 (n - 1)
    | _ => .unit

/-- An action of a script. -/
inductive Action where
  /-- Leave a mark. -/
  | mark (document : Document)
  /-- Note what the call looks like. -/
  | showCall
  /-- Note the description of the call. -/
  | showDescription
  /-- Note the value that the call returned. -/
  | showValue
  /-- Note the error that the call ended with. -/
  | showError
  /-- Note the innermost routing key and the number of open scopes. -/
  | showRouting
  /-- Replace an argument, or fail. -/
  | setArgument (index : Nat) (operand : Operand)
  /-- Replace an argument and note what came of it. -/
  | trySetArgument (index : Nat) (operand : Operand)
  /-- Overwrite an argument of the same type and note whether there was one. -/
  | overwriteArgument (index : Nat) (value : Value)
  /-- Add an argument. -/
  | pushArgument (operand : Operand)
  /-- Remove all arguments. -/
  | clearArguments
  /-- Set or clear the routing key. -/
  | route (key : Option String)
  /-- Set the routing key to one made of an argument. -/
  | routeByArgument (index : Nat)
  /-- Proceed and keep the value, or fail. -/
  | proceed (register : String)
  /-- Proceed, note what came of it, and keep it. -/
  | tryProceed (register : String)
  /-- Call a method of a proxy, note what came of it, and keep it. -/
  | call (proxy interface method : String) (arguments : List Operand) (register : String)
  /-- Add to a kept unsigned word of 64 bits, or fail. -/
  | add (register : String) (n : UInt64)
  /-- Add to the end of a kept text, or fail. -/
  | appendText (register : String) (text : String)
  /-- End with a value. -/
  | give (operand : Operand)
  /-- End with what is kept. -/
  | giveRegister (register : String)
  /-- End with an error. -/
  | fail (error : AopError)
  /-- End with an error of the service. -/
  | throwService (error : ServiceError)
  /-- End by swallowing the error. -/
  | swallow (value : Value)
  /-- End by letting the error pass on. -/
  | rethrow
  /-- Panic. -/
  | panic (message : String)
  /-- Let milliseconds pass. -/
  | sleep (milliseconds : Nat)
  /-- Run one of two scripts, the first if an argument is an unsigned word of 64 bits above zero. -/
  | ifPositive (index : Nat) (yes no : List Action)
  /-- Run one of two scripts, the first if an argument equals a value. -/
  | ifArgument (index : Nat) (value : Value) (yes no : List Action)
  /-- Run one of two scripts, the first if a register keeps an error. -/
  | ifError (register : String) (yes no : List Action)
  /-- Run one of two scripts, the first if the call ended with an error of the service. -/
  | ifServiceError (yes no : List Action)

/-- Results under names. -/
abbrev Registers := List (String × CallResult)

namespace Registers

/-- Keeps a result under a name, in place of any other. -/
def keep (registers : Registers) (name : String) (result : CallResult) : Registers :=
  (name, result) :: registers.filter (·.1 != name)

/-- Takes the result out that is kept under a name. -/
def take (registers : Registers) (name : String) : Option CallResult × Registers :=
  (registers.lookup name, registers.filter (·.1 != name))

end Registers

/-- How an action ends a script. -/
inductive Ending where
  /-- With a value. -/
  | value (value : Value)
  /-- With an error. -/
  | error (error : AopError)
  /-- With an error of the service. -/
  | serviceError (error : ServiceError)
  /-- By swallowing the error of the call. -/
  | swallow (value : Value)
  /-- By letting the error of the call pass on. -/
  | rethrow

/-- What a script can reach at the place where it runs. -/
structure Stage {Request : Type} (Answer : Request → Type) where
  /-- Requests that any code may make. -/
  ambient : (request : Ambient) → Program Answer request.Answer
  /-- The arguments. -/
  arguments : Program Answer Arguments
  /-- The call as an advice sees it. -/
  view? : Option (Program Answer CallView)
  /-- The description of the call. -/
  description? : Option (Program Answer String)
  /-- Replacing the arguments. -/
  setArguments? : Option (Arguments → Program Answer Unit)
  /-- Setting the routing key. -/
  setRoutingKey? : Option (Option String → Program Answer Unit)
  /-- Proceeding. -/
  proceed? : Option (Program Answer CallResult)
  /-- The value that the call returned. -/
  value? : Option Value
  /-- The error that the call ended with. -/
  thrown? : Option AopError

namespace Stage

variable {Request : Type} {Answer : Request → Type}

/-- Leaves a note. -/
def note (stage : Stage Answer) (note : Note) : Program Answer Unit := stage.ambient (.note note)

/-- Notes the innermost routing key and the number of open scopes. -/
def noteRouting (stage : Stage Answer) : Program Answer Unit := do
  let routing : Option String × Nat ← stage.ambient .routing
  stage.note (.routing routing.1 routing.2)

/-- Notes what the call looks like. -/
def noteCall (stage : Stage Answer) : Program Answer Unit :=
  match stage.view? with
  | none => pure ()
  | some look => do
    let view ← look
    let routing : Option String × Nat ← stage.ambient .routing
    stage.note (.call view routing.1 routing.2)

/-- Notes the description of the call. -/
def noteDescription (stage : Stage Answer) : Program Answer Unit :=
  match stage.description? with
  | none => pure ()
  | some describe => do stage.note (.description (← describe))

/-- Replaces the arguments if that is in reach. -/
def setArguments (stage : Stage Answer) (arguments : Arguments) : Program Answer Unit :=
  match stage.setArguments? with
  | none => pure ()
  | some set => set arguments

/-- Sets the routing key if that is in reach. -/
def setRoutingKey (stage : Stage Answer) (key : Option String) : Program Answer Unit :=
  match stage.setRoutingKey? with
  | none => pure ()
  | some set => set key

/-- Proceeds if that is in reach. -/
def proceed (stage : Stage Answer) : Program Answer CallResult :=
  match stage.proceed? with
  | none => pure (.error (.proceedMisuse "<none>" .noAdvice none))
  | some go => go

/-- The routing key made of an argument. -/
def keyOf : Option Value → String
  | some (.string s) => s
  | some (.u64 n) => "db_" ++ toString n.toNat
  | _ => ""

/-- What a script made of a register: the registers afterwards, or the error to fail with. -/
def transform (registers : Registers) (register action : String)
    (change : Value → Option Value) : Registers × Option Ending :=
  let (kept, registers) := registers.take register
  match kept.getD (.ok .unit) with
  | .error error => (registers, some (.error error))
  | .ok value =>
    match change value with
    | some value => (registers.keep register (.ok value), none)
    | none => (registers, some (.error (.advice action (.text ("unexpected " ++ value.typeName)))))

mutual

/-- Runs one action. The result says whether it ended the script. -/
def perform (stage : Stage Answer) (registers : Registers) :
    Action → Program Answer (Registers × Option Ending)
  | .mark document => do stage.note (.mark document); pure (registers, none)
  | .showCall => do stage.noteCall; pure (registers, none)
  | .showDescription => do stage.noteDescription; pure (registers, none)
  | .showValue => do stage.note (.value stage.value?); pure (registers, none)
  | .showError => do stage.note (.thrown stage.thrown?); pure (registers, none)
  | .showRouting => do stage.noteRouting; pure (registers, none)
  | .setArgument index operand => do
    let arguments ← stage.arguments
    match arguments.set index (operand.eval arguments) with
    | .error error => pure (registers, some (.error error))
    | .ok changed => do stage.setArguments changed; pure (registers, none)
  | .trySetArgument index operand => do
    let arguments ← stage.arguments
    match arguments.set index (operand.eval arguments) with
    | .error error => do stage.note (.replaced (.error error)); pure (registers, none)
    | .ok changed => do
      stage.setArguments changed
      stage.note (.replaced (.ok ()))
      pure (registers, none)
  | .overwriteArgument index value => do
    let arguments ← stage.arguments
    match arguments.overwrite? index value with
    | none => do stage.note (.overwritten false); pure (registers, none)
    | some changed => do
      stage.setArguments changed
      stage.note (.overwritten true)
      pure (registers, none)
  | .pushArgument operand => do
    let arguments ← stage.arguments
    stage.setArguments (arguments.push (operand.eval arguments))
    pure (registers, none)
  | .clearArguments => do stage.setArguments .empty; pure (registers, none)
  | .route key => do stage.setRoutingKey key; pure (registers, none)
  | .routeByArgument index => do
    let arguments ← stage.arguments
    stage.setRoutingKey (some (keyOf (arguments.get? index)))
    pure (registers, none)
  | .proceed register => do
    match ← stage.proceed with
    | .error error => pure (registers, some (.error error))
    | .ok value => pure (registers.keep register (.ok value), none)
  | .tryProceed register => do
    let result ← stage.proceed
    stage.note (.proceeded result)
    pure (registers.keep register result, none)
  | .call proxy interface method operands register => do
    let arguments ← stage.arguments
    let result : CallResult ← stage.ambient
      (.call ⟨proxy, interface, method, ⟨operands.map (Operand.eval arguments)⟩⟩)
    stage.note (.called result)
    pure (registers.keep register result, none)
  | .add register n =>
    pure (transform registers register "add" fun
      | .u64 m => some (.u64 (m + n))
      | _ => none)
  | .appendText register text =>
    pure (transform registers register "suffix" fun
      | .string s => some (.string (s ++ text))
      | _ => none)
  | .give operand => do
    let arguments ← stage.arguments
    pure (registers, some (.value (operand.eval arguments)))
  | .giveRegister register =>
    let (kept, registers) := registers.take register
    match kept.getD (.ok .unit) with
    | .ok value => pure (registers, some (.value value))
    | .error error => pure (registers, some (.error error))
  | .fail error => pure (registers, some (.error error))
  | .throwService error => pure (registers, some (.serviceError error))
  | .swallow value => pure (registers, some (.swallow value))
  | .rethrow => pure (registers, some .rethrow)
  | .panic message => .panic message
  | .sleep milliseconds => do stage.ambient (.sleep milliseconds); pure (registers, none)
  | .ifPositive index yes no => do
    let arguments ← stage.arguments
    match arguments.get? index with
    | some (.u64 n) => if n = 0 then stage.performAll registers no else stage.performAll registers yes
    | _ => stage.performAll registers no
  | .ifArgument index value yes no => do
    let arguments ← stage.arguments
    if arguments.get? index = some value then stage.performAll registers yes
    else stage.performAll registers no
  | .ifError register yes no =>
    match registers.lookup register with
    | some (.error _) => stage.performAll registers yes
    | _ => stage.performAll registers no
  | .ifServiceError yes no =>
    match stage.thrown?.bind AopError.serviceError? with
    | some _ => stage.performAll registers yes
    | none => stage.performAll registers no

/-- Runs the actions of a script up to the first that ends it. -/
def performAll (stage : Stage Answer) (registers : Registers) :
    List Action → Program Answer (Registers × Option Ending)
  | [] => pure (registers, none)
  | action :: actions => do
    match ← stage.perform registers action with
    | (registers, some ending) => pure (registers, some ending)
    | (registers, none) => stage.performAll registers actions

end

/-- The place of a before or around advice. -/
def steering : Stage Steering.Answer :=
  { ambient := Steering.ask
    arguments := do pure (← Steering.look).arguments
    view? := some Steering.look
    description? := some (Program.request Steering.description)
    setArguments? := some fun arguments => Program.request (Steering.setArguments arguments)
    setRoutingKey? := some fun key => Program.request (Steering.setRoutingKey key)
    proceed? := some Steering.goOn
    value? := none
    thrown? := none }

/-- The place of an advice at the end of a call, which may know the value or the error. -/
def observing (value? : Option Value) (thrown? : Option AopError) : Stage Observing.Answer :=
  let look : ObservingProgram CallView := Program.request Observing.view
  { ambient := fun request => Program.request (Observing.ambient request)
    arguments := do pure (← look).arguments
    view? := some look
    description? := some (Program.request Observing.description)
    setArguments? := none
    setRoutingKey? := none
    proceed? := none
    value?
    thrown? }

/-- The place of a target, which has taken its arguments. -/
def target (arguments : List Value) : Stage Ambient.Answer :=
  { ambient := fun request => Program.request request
    arguments := pure ⟨arguments⟩
    view? := none
    description? := none
    setArguments? := none
    setRoutingKey? := none
    proceed? := none
    value? := none
    thrown? := none }

end Stage

namespace Script

/-- The register that is meant where none is named. -/
def defaultRegister : String := "r"

/-- What an advice without a result makes of the ending of its script. -/
def verdict : Option Ending → Except AopError Unit
  | some (.error error) => .error error
  | some (.serviceError error) => .error (.target (.service error))
  | _ => .ok ()

/-- A script as a before advice. -/
def before (script : List Action) : BeforeBody := do
  let (_, ending) ← Stage.steering.performAll [] script
  pure (verdict ending)

/-- A script as an around advice. Without an ending it gives what the default register keeps. -/
def around (script : List Action) : AroundBody := do
  let (registers, ending) ← Stage.steering.performAll [] script
  match ending with
  | some (.error error) => pure (.error error)
  | some (.serviceError error) => pure (.error (.target (.service error)))
  | some (.value value) => pure (.ok value)
  | _ => pure ((registers.lookup defaultRegister).getD (.ok .unit))

/-- A script as an after advice. -/
def after (script : List Action) : AfterBody := do
  let (_, ending) ← (Stage.observing none none).performAll [] script
  pure (verdict ending)

/-- A script as an advice for a returned value. -/
def afterReturning (script : List Action) : AfterReturningBody := fun value => do
  let (_, ending) ← (Stage.observing (some value) none).performAll [] script
  pure (verdict ending)

/-- A script as an advice for an error. Unless it swallows the error or fails, the error passes on. -/
def afterThrowing (script : List Action) : AfterThrowingBody := fun error => do
  let (_, ending) ← (Stage.observing none (some error)).performAll [] script
  match ending with
  | some (.swallow value) => pure (.ok (.swallow value))
  | ending => pure ((verdict ending).map fun _ => .rethrow)

/-- A script as the behaviour of an advice of a kind. -/
def behavior (kind : AdviceKind) (script : List Action) : Behavior :=
  match kind with
  | .before => .before (before script)
  | .around => .around (around script)
  | .after => .after (after script)
  | .afterReturning => .afterReturning (afterReturning script)
  | .afterThrowing => .afterThrowing (afterThrowing script)

/-- Adds one to a count in shared memory. -/
def countUp (cell : Nat) : AmbientProgram Unit := do
  let n : Value ← Program.request (Ambient.load cell)
  match n with
  | .u64 n => Program.request (Ambient.store cell (.u64 (n + 1)))
  | _ => pure ()

/-- A script as a method of a target. The method counts in shared memory how often it is entered, and
notes what it was given. Errors of the interception become errors of the service. -/
def method (cell : Nat) (key : String) (takes : List ValueType) (result : ValueType)
    (script : List Action) : TargetMethod :=
  { takes
    result
    body := fun arguments rest => do
      countUp cell
      let stage := Stage.target arguments
      let routing : Option String × Nat ← stage.ambient .routing
      stage.note (.target key arguments rest routing.1 routing.2)
      let (_, ending) ← stage.performAll [] script
      match ending with
      | some (.value value) => pure (.ok value)
      | some (.error error) => pure (.error error.toServiceError)
      | some (.serviceError error) => pure (.error error)
      | _ => pure (.ok .unit) }

end Script

end Interception
