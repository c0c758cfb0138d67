import Interception.Config.Options
import Interception.Manager

/-!
# The catalogue of aspect types

A catalogue knows aspect types by name. It makes an aspect from options: the type reads its own options
and says which advices there are, and the aspect is called as the options say or else as the type says.
A manager can be made from a list of options; its aspects are registered in the order of the list, up to
the first that fails.
-/

namespace Interception

/-- Why an aspect or a manager cannot be made from options. -/
inductive SetupError where
  /-- The options are malformed. -/
  | malformed
  /-- No aspect type of the name is known. -/
  | unknownType (name : String)
  /-- The options are readable but wrong. -/
  | aop (error : AopError)

/-- A type of aspects that can be made from options. -/
structure AspectType where
  /-- The name of an aspect where no other is given. -/
  defaultName : String
  /-- Makes the advices from options. -/
  advices : Document → World → Except SetupError (List Advice) × World

namespace AspectType

/-- The type of logging aspects. -/
def logging : AspectType :=
  { defaultName := LoggingAspect.name
    advices := fun options world =>
      match LoggingOptions.read? Document.dialect options with
      | none => (.error .malformed, world)
      | some options => ((LoggingAspect.create options).mapError .aop |>.map (·.advices), world) }

/-- The type of metric aspects, which use the shared registry. -/
def metric : AspectType :=
  { defaultName := MetricAspect.name
    advices := fun options world =>
      match MetricOptions.read? Document.dialect options with
      | none => (.error .malformed, world)
      | some options =>
        let (result, world) := MetricAspect.createShared options world
        (result.mapError .aop |>.map (·.advices), world) }

/-- The type of aspects that answer with a constant. -/
def fixed : AspectType :=
  { defaultName := "fixed"
    advices := fun options world =>
      match ConstantOptions.readRequired? Document.dialect options with
      | none => (.error .malformed, world)
      | some options => (options.fixedAdvice.mapError .aop |>.map ([·]), world) }

/-- The type of aspects that set a constant routing key. -/
def routing : AspectType :=
  { defaultName := "other"
    advices := fun options world =>
      match ConstantOptions.readOptional? Document.dialect options with
      | none => (.error .malformed, world)
      | some options => (.ok [options.routingAdvice], world) }

end AspectType

/-- Aspect types by name. -/
structure Catalogue where
  /-- The types, each under its name; of types with one name the first counts. -/
  types : List (String × AspectType)

/-- The options that a type reads. Absent options count as options where nothing is said. -/
def AspectOptions.data (options : AspectOptions) : Document :=
  match options.options with
  | .null => .record []
  | data => data

namespace Catalogue

/-- Adds a type under a name, in place of any other of that name. -/
def register (catalogue : Catalogue) (name : String) (type : AspectType) : Catalogue :=
  ⟨(name, type) :: catalogue.types.filter (·.1 != name)⟩

/-- Whether a type is known. -/
def knows (catalogue : Catalogue) (name : String) : Bool := (catalogue.types.lookup name).isSome

/-- Adds the types of logging and metric aspects, in place of any others of their names. -/
def withBuiltin (catalogue : Catalogue) : Catalogue :=
  (catalogue.register "LoggingAspect" .logging).register "MetricAspect" .metric

/-- Makes an aspect from options. -/
def create (catalogue : Catalogue) (options : AspectOptions) (world : World) :
    Except SetupError Aspect × World :=
  match catalogue.types.lookup options.typeName with
  | none => (.error (.unknownType options.typeName), world)
  | some type =>
    match type.advices options.data world with
    | (.error error, world) => (.error error, world)
    | (.ok advices, world) => (.ok ⟨options.name.getD type.defaultName, advices⟩, world)

end Catalogue

namespace Manager

/-- Registers the aspects made from options, up to the first that fails. -/
def registerAll (catalogue : Catalogue) (manager : Manager) (world : World) :
    List AspectOptions → Except SetupError Manager × World
  | [] => (.ok manager, world)
  | options :: rest =>
    match catalogue.create options world with
    | (.error error, world) => (.error error, world)
    | (.ok aspect, world) =>
      let reply := manager.register aspect
      let world := reply.records.foldl World.log world
      match reply.result with
      | .error error => (.error (.aop error), world)
      | .ok () => registerAll catalogue reply.state world rest

/-- A new manager with the aspects made from options, in their order. The types of logging and metric
aspects are added to the catalogue first. -/
def ofOptions (catalogue : Catalogue) (options : ManagerOptions) (world : World) :
    Except SetupError Manager × Catalogue × World :=
  let catalogue := catalogue.withBuiltin
  let (result, world) := registerAll catalogue .empty world options.aspects
  (result, catalogue, world)

end Manager

end Interception
