import Interception.Advice
import Interception.Pointcut.Cache

/-!
# The registry of advices

Aspects are registered one after the other. An aspect is registered as a whole or not at all: its name
must be new and not blank, and all its pointcuts must be readable. Every advice gets a sequence number,
which counts the advices registered before it.

Resolving a signature gives the advices whose pointcuts accept it. Those that run before and around the
target come first, in increasing order; those that run at the end follow, in decreasing order, so that
the advice that comes first also ends last. Advices of the same order are taken by their sequence
numbers. Resolutions are kept until the next aspect is registered, and each has a serial number, so that
equal numbers mean the same object.
-/

namespace Interception

/-- An advice in the registry. -/
structure RegisteredAdvice where
  /-- The name of the aspect. -/
  aspect : String
  /-- The name in messages. -/
  label : String
  /-- The pointcut, read from its text. -/
  pointcut : Pointcut
  /-- The place among other advices. -/
  order : Int32
  /-- The number of advices registered before. -/
  sequence : Nat
  /-- What the advice does. -/
  behavior : Behavior

namespace RegisteredAdvice

/-- The kind of a registered advice. -/
def kind (advice : RegisteredAdvice) : AdviceKind := advice.behavior.kind

/-- The description of a registered advice. -/
def describe (advice : RegisteredAdvice) : String :=
  Text.describeRecord "RegisteredAdvice"
    [("label", Text.quoted advice.label),
     ("kind", advice.kind.describe),
     ("pointcut", Text.quoted advice.pointcut.expression),
     ("order", toString advice.order.toInt),
     ("sequence", toString advice.sequence)]

/-- Whether the first advice comes before the second or is the same: by order, then by sequence. -/
def precedes (a b : RegisteredAdvice) : Bool :=
  a.order < b.order || (a.order == b.order && a.sequence ≤ b.sequence)

end RegisteredAdvice

/-- The advices for a signature, as kept by a registry. -/
structure Resolution where
  /-- The advices in the order in which a chain takes them. -/
  advices : List RegisteredAdvice
  /-- The number of resolutions that the registry made before. -/
  serial : Nat

/-- The registered aspects with what was worked out from them. -/
structure AdviceRegistry where
  /-- The pointcuts read so far. -/
  cache : PointcutCache
  /-- The registered advices by increasing sequence number. -/
  advices : List RegisteredAdvice
  /-- The names of the registered aspects in the order of their registration. -/
  aspects : List String
  /-- The resolutions made since the last registration, latest first. -/
  resolved : List (CallSignature × Resolution)
  /-- The number of resolutions made so far. -/
  resolutions : Nat

namespace AdviceRegistry

/-- The registry without aspects. -/
def empty : AdviceRegistry := ⟨.empty, [], [], [], 0⟩

/-- The number of registered advices. -/
def size (registry : AdviceRegistry) : Nat := registry.advices.length

/-- Whether an aspect of the name is registered. -/
def hasAspect (registry : AdviceRegistry) (name : String) : Bool := registry.aspects.contains name

/-- The name of an advice in messages: its own, or one made of its aspect, place and kind. -/
def labelOf (aspect : String) (index : Nat) (advice : Advice) : String :=
  advice.name.getD (aspect ++ "#" ++ toString index ++ ":" ++ advice.kind.name)

/-- The advices of an aspect as they are registered, numbered from `sequence` on. `index` is the place
of the first one in its aspect. -/
def enlist (aspect : String) (sequence index : Nat) :
    List Advice → List CompiledPointcut → List RegisteredAdvice
  | advice :: advices, compiled :: rest =>
    { aspect
      label := labelOf aspect index advice
      pointcut := compiled.pointcut
      order := advice.order.getD 0
      sequence
      behavior := advice.behavior } :: enlist aspect (sequence + 1) (index + 1) advices rest
  | _, _ => []

/-- Registers an aspect. A failure leaves no trace but the pointcuts that were read before it. -/
def register (registry : AdviceRegistry) (aspect : Aspect) :
    Except AopError Unit × AdviceRegistry :=
  if Text.isBlankText aspect.name then (.error (.configuration .blankAspect), registry)
  else if registry.hasAspect aspect.name then
    (.error (.configuration (.repeatedAspect aspect.name)), registry)
  else
    match registry.cache.compileAll (aspect.advices.map Advice.pointcut) with
    | (.error error, cache) => (.error error, { registry with cache })
    | (.ok compiled, cache) =>
      (.ok (),
        { cache
          advices := registry.advices ++ enlist aspect.name registry.size 0 aspect.advices compiled
          aspects := registry.aspects ++ [aspect.name]
          resolved := []
          resolutions := registry.resolutions })

/-- The log record of a registration. -/
def registrationRecord (aspect : Aspect) : LogRecord :=
  .debug ("aspect '" ++ aspect.name ++ "' registered with " ++ toString aspect.advices.length ++
    " advices")

/-- The advices for a signature in the order in which a chain takes them. -/
def select (advices : List RegisteredAdvice) (signature : CallSignature) : List RegisteredAdvice :=
  let selected := advices.filter fun advice => advice.pointcut.accepts signature
  let leading := selected.filter fun advice => !advice.kind.isAfterFamily
  let trailing := selected.filter fun advice => advice.kind.isAfterFamily
  leading.mergeSort RegisteredAdvice.precedes ++
    trailing.mergeSort fun a b => RegisteredAdvice.precedes b a

/-- The advices for a signature, worked out now or since the last registration. -/
def resolve (registry : AdviceRegistry) (signature : CallSignature) :
    Resolution × AdviceRegistry :=
  match registry.resolved.lookup signature with
  | some resolution => (resolution, registry)
  | none =>
    let resolution := ⟨select registry.advices signature, registry.resolutions⟩
    (resolution,
      { registry with
        resolved := (signature, resolution) :: registry.resolved
        resolutions := registry.resolutions + 1 })

end AdviceRegistry

end Interception
