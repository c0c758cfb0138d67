import Interception.Advice

/-!
# The logging aspect

The logging aspect encloses the calls it selects and writes one record for each that ends: its method,
the types of its arguments, how it ended, how long it took and its routing key. Records of successful
and of failed calls are sampled at rates of their own. A successful call that took longer than a
threshold is reported as a warning, unless the threshold is zero.

What is reported of the arguments is what they were before the call proceeded. The routing key is the
one at the end.
-/

namespace Interception

/-- The options of a logging aspect. -/
structure LoggingOptions where
  /-- The text of the pointcut. -/
  pointcut : String
  /-- The place among other advices. -/
  order : Int32
  /-- The share of successful calls that are reported. -/
  infoSampleRate : Float32
  /-- The share of failed calls that are reported. -/
  warnSampleRate : Float32
  /-- The duration in milliseconds from which a successful call is reported as a warning. -/
  slowThreshold : UInt64

/-- A pointcut that selects all calls. -/
def everyCall : String := "* ..*.*(..)"

namespace LoggingOptions

/-- The options where nothing is said: all calls are reported, outside all other advices. -/
def default : LoggingOptions := ⟨everyCall, Int32.minValue, 1.0, 1.0, 0⟩

/-- What is wrong with a rate. A rate that is no number passes. -/
def rateFault (rate : Float32) : Option OptionFault :=
  if rate < 0 then some .belowZero else if 1 < rate then some .aboveOne else none

/-- What is wrong with the options, by name in increasing order. -/
def faults (options : LoggingOptions) : List (String × OptionFault) :=
  [("info_sample_rate", rateFault options.infoSampleRate),
   ("pointcut", if options.pointcut.isEmpty then some .empty else none),
   ("warn_sample_rate", rateFault options.warnSampleRate)].filterMap fun (name, fault) =>
    fault.map fun f => (name, f)

end LoggingOptions

/-- A logging aspect with acceptable options. -/
structure LoggingAspect where
  /-- The options. -/
  options : LoggingOptions

namespace LoggingAspect

/-- The logging aspect with the given options, if they are acceptable. -/
def create (options : LoggingOptions) : Except AopError LoggingAspect :=
  match options.faults with
  | [] => .ok ⟨options⟩
  | faults => .error (.configuration (.invalidOptions "LoggingAspect" faults))

/-- The part of a record that tells duration and routing key. -/
def ending (duration : Nat) (routingKey : Option String) : String :=
  ", duration_ms=" ++ toString duration ++ ", routing_key=" ++
    Text.describeOption (routingKey.map Text.quoted)

/-- The text of the record for a successful call. -/
def successText (operation args : String) (value : Value) (duration : Nat)
    (routingKey : Option String) : String :=
  operation ++ " completed, args=" ++ args ++ ", result=" ++ value.describe ++ ", status=success" ++
    ending duration routingKey

/-- The text of the record for a failed call. -/
def failureText (operation args : String) (error : AopError) (duration : Nat)
    (routingKey : Option String) : String :=
  operation ++ " failed, args=" ++ args ++ ", error=" ++ error.message ++ ", status=error" ++
    ending duration routingKey

/-- Reports how a call ended, at the rate for calls that end so. -/
def report (aspect : LoggingAspect) (operation args : String) (result : Except AopError Value)
    (duration : Nat) (routingKey : Option String) : SteeringProgram Unit := do
  let drawn : Float32 ← Steering.ask .draw
  match result with
  | .ok value =>
    if drawn < aspect.options.infoSampleRate then
      let isSlow := 0 < aspect.options.slowThreshold &&
        aspect.options.slowThreshold.toNat ≤ duration
      let text := successText operation args value duration routingKey
      Steering.ask (.log (if isSlow then .warn text else .info text))
  | .error error =>
    if drawn < aspect.options.warnSampleRate then
      Steering.ask (.log (.warn (failureText operation args error duration routingKey)))

/-- Proceeds, reports how the call ended, and gives the result on unchanged. -/
def around (aspect : LoggingAspect) : AroundBody := do
  let before ← Steering.look
  let start : Nat ← Steering.ask .clock
  let result ← Steering.goOn
  let stop : Nat ← Steering.ask .clock
  let after ← Steering.look
  aspect.report before.signature.operation
    (Text.describeList (before.arguments.typeNames.map Text.quoted)) result (stop - start)
    after.routingKey
  pure result

/-- The name of the aspect where no other is given. -/
def name : String := "logging"

/-- The advices of the aspect. -/
def advices (aspect : LoggingAspect) : List Advice :=
  [{ pointcut := aspect.options.pointcut
     order := some aspect.options.order
     name := some name
     behavior := .around aspect.around }]

end LoggingAspect

end Interception
