import Interception.Aspects.Constant
import Interception.Aspects.Metric
import Interception.Config.Dialect

/-!
# Options of aspects and managers

The options of an aspect name its type, may give it a name, and hold data whose meaning the type
decides. The options of a manager list the options of its aspects. Everything can be written in any
dialect. Fields that are not known are ignored, and a field must not be given twice.
-/

namespace Interception

/-- The options of an aspect of any type. -/
structure AspectOptions where
  /-- The name of the aspect type. -/
  typeName : String
  /-- The name of the aspect, if it is not the one that its type gives. -/
  name : Option String
  /-- The options that the type understands. -/
  options : Document

/-- The options of a manager. -/
structure ManagerOptions where
  /-- The options of the aspects in the order of their registration. -/
  aspects : List AspectOptions

namespace AspectOptions

/-- Whether two options hold the same data. -/
def same (a b : AspectOptions) : Bool :=
  a.typeName == b.typeName && a.name == b.name && a.options.same b.options

/-- Reads the options of an aspect. -/
def read? {Tree : Type} (dialect : Dialect Tree) (tree : Tree) : Option AspectOptions := do
  let fields ← dialect.record? ["type", "name", "options"] tree
  let typeName ← Dialect.required? fields "type" dialect.text?
  let name ← Dialect.optional? fields "name"
    (fun tree => if dialect.isAbsent tree then some none else (dialect.text? tree).map some) none
  let options ← Dialect.optional? fields "options" dialect.document? .null
  some { typeName, name, options }

/-- The options as data again. A name that is not given is left out. -/
def toDocument (options : AspectOptions) : Document :=
  Document.ofFields
    ([("type", .text options.typeName), ("options", options.options)] ++
      match options.name with
      | some name => [("name", .text name)]
      | none => [])

end AspectOptions

namespace ManagerOptions

/-- Whether two options hold the same data. -/
def same (a b : ManagerOptions) : Bool :=
  a.aspects.length == b.aspects.length && (a.aspects.zip b.aspects).all fun p => p.1.same p.2

/-- Reads the options of a manager. -/
def read? {Tree : Type} (dialect : Dialect Tree) (tree : Tree) : Option ManagerOptions := do
  let fields ← dialect.record? ["aspects"] tree
  let aspects ← Dialect.optional? fields "aspects"
    (fun tree => do (← dialect.items? tree).mapM (AspectOptions.read? dialect)) []
  some ⟨aspects⟩

end ManagerOptions

/-- Reads the options of a logging aspect. -/
def LoggingOptions.read? {Tree : Type} (dialect : Dialect Tree) (tree : Tree) :
    Option LoggingOptions := do
  let fields ← dialect.record?
    ["pointcut", "order", "info_sample_rate", "warn_sample_rate", "slow_threshold_ms"] tree
  let base := LoggingOptions.default
  some
    { pointcut := ← Dialect.optional? fields "pointcut" dialect.text? base.pointcut
      order := ← Dialect.optional? fields "order" dialect.order? base.order
      infoSampleRate :=
        ← Dialect.optional? fields "info_sample_rate" dialect.single? base.infoSampleRate
      warnSampleRate :=
        ← Dialect.optional? fields "warn_sample_rate" dialect.single? base.warnSampleRate
      slowThreshold :=
        ← Dialect.optional? fields "slow_threshold_ms" dialect.word? base.slowThreshold }

/-- Reads the options of a metric aspect. -/
def MetricOptions.read? {Tree : Type} (dialect : Dialect Tree) (tree : Tree) :
    Option MetricOptions := do
  let fields ← dialect.record? ["pointcut", "order", "prefix"] tree
  let base := MetricOptions.default
  some
    { pointcut := ← Dialect.optional? fields "pointcut" dialect.text? base.pointcut
      order := ← Dialect.optional? fields "order" dialect.order? base.order
      stem := ← Dialect.optional? fields "prefix" dialect.text? base.stem }

/-- Reads the options of a fixed aspect, which must all be given. -/
def ConstantOptions.readRequired? {Tree : Type} (dialect : Dialect Tree) (tree : Tree) :
    Option ConstantOptions := do
  let fields ← dialect.record? ["value", "pointcut"] tree
  some
    { value := ← Dialect.required? fields "value" dialect.word?
      pointcut := ← Dialect.required? fields "pointcut" dialect.text? }

/-- Reads the options of a routing aspect, which may be left out. -/
def ConstantOptions.readOptional? {Tree : Type} (dialect : Dialect Tree) (tree : Tree) :
    Option ConstantOptions := do
  let fields ← dialect.record? ["value", "pointcut"] tree
  some
    { value := ← Dialect.optional? fields "value" dialect.word? 1
      pointcut := ← Dialect.optional? fields "pointcut" dialect.text? everyCall }

end Interception
