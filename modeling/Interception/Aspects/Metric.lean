import Interception.Aspects.Logging
import Interception.World

/-!
# The metric aspect

The metric aspect encloses the calls it selects and counts each that ends, apart for successes and
failures, in a family of meters. Families have the stem that the options give. In the shared registry a
stem is registered once and its family is used by all aspects with that stem; in a private registry every
aspect gets a family of its own.
-/

namespace Interception

/-- The options of a metric aspect. -/
structure MetricOptions where
  /-- The text of the pointcut. -/
  pointcut : String
  /-- The place among other advices. -/
  order : Int32
  /-- The beginning of the names of the meters. -/
  stem : String
  deriving DecidableEq

namespace MetricOptions

/-- The options where nothing is said: all calls are counted, just inside a logging aspect. -/
def default : MetricOptions := ⟨everyCall, Int32.minValue + 1, "aop"⟩

/-- Whether a text may begin the name of a meter: it consists of ASCII letters, digits and underscores
and does not start with a digit. -/
def isStem (text : String) : Bool :=
  match text.toList with
  | [] => false
  | c :: rest => (c.isAlpha || c == '_') && rest.all fun d => d.isAlphanum || d == '_'

/-- What is wrong with the options, by name in increasing order. -/
def faults (options : MetricOptions) : List (String × OptionFault) :=
  [("pointcut", if options.pointcut.isEmpty then some OptionFault.empty else none),
   ("prefix", if isStem options.stem then none else some .badMeterName)].filterMap fun (name, fault) =>
    fault.map fun f => (name, f)

/-- The description of the options. -/
def describe (options : MetricOptions) : String :=
  Text.describeRecord "MetricAspectConfig"
    [("pointcut", Text.quoted options.pointcut),
     ("order", toString options.order.toInt),
     ("prefix", Text.quoted options.stem)]

end MetricOptions

/-- A metric aspect with acceptable options and its family of meters. -/
structure MetricAspect where
  /-- The options. -/
  options : MetricOptions
  /-- The number of the family. -/
  family : Nat
  deriving DecidableEq

namespace MetricAspect

/-- The options if they are acceptable. -/
def check (options : MetricOptions) : Except AopError MetricOptions :=
  match options.faults with
  | [] => .ok options
  | faults => .error (.configuration (.invalidOptions "MetricAspect" faults))

/-- A metric aspect on the shared registry, with the family of its stem. -/
def createShared (options : MetricOptions) (world : World) : Except AopError MetricAspect × World :=
  match check options with
  | .error error => (.error error, world)
  | .ok options =>
    match world.meters.shared? options.stem with
    | some family => (.ok ⟨options, family⟩, world)
    | none =>
      let (family, meters) := world.meters.register options.stem true
      (.ok ⟨options, family⟩,
        { world with meters := meters.share options.stem family }.log
          (.debug ("metric families '" ++ options.stem ++ "' registered")))

/-- A metric aspect on the private registry, with a new family. -/
def createPrivate (options : MetricOptions) (world : World) : Except AopError MetricAspect × World :=
  match check options with
  | .error error => (.error error, world)
  | .ok options =>
    let (family, meters) := world.meters.register options.stem false
    (.ok ⟨options, family⟩, { world with meters })

/-- The description of the aspect. -/
def describe (aspect : MetricAspect) : String :=
  Text.describeRecord "MetricAspect" [("config", aspect.options.describe)]

/-- Proceeds, counts how the call ended, and gives the result on unchanged. -/
def around (aspect : MetricAspect) : AroundBody := do
  let view ← Steering.look
  let result ← Steering.goOn
  Steering.ask (.count aspect.family view.signature.operation result.isOk)
  pure result

/-- The name of the aspect where no other is given. -/
def name : String := "metric"

/-- The advices of the aspect. -/
def advices (aspect : MetricAspect) : List Advice :=
  [{ pointcut := aspect.options.pointcut
     order := some aspect.options.order
     name := some name
     behavior := .around aspect.around }]

end MetricAspect

end Interception
