import Interception.Request

/-!
# Introductions

An introduction adds a capability to the targets whose type names fit a pattern. A capability has a name
and a type of its own, and every proxy that has it gets an instance from the introduction's maker. Two
introductions with the same name or the same type are allowed only if no type name fits both patterns.
-/

namespace Interception

/-- A capability that proxies can have beside their interfaces. -/
structure Introduction where
  /-- The pattern for the target types. -/
  targetPattern : TypePattern
  /-- The interface of the capability. -/
  capability : InterfaceDescriptor
  /-- The type of the capability, by its name. -/
  capabilityType : String
  /-- Makes an instance. -/
  maker : AmbientProgram Value

namespace Introduction

/-- An introduction for a pattern given as a text. -/
def create (pattern : String) (capability : InterfaceDescriptor) (capabilityType : String)
    (maker : AmbientProgram Value) : Except AopError Introduction :=
  if Text.isBlankText capability.name then .error (.configuration .blankCapability)
  else
    match TypePattern.parse pattern.toList with
    | .error fault => .error (AopError.ofTypePatternFault fault)
    | .ok targetPattern => .ok { targetPattern, capability, capabilityType, maker }

/-- Whether the introduction is meant for a target type. -/
def appliesTo (introduction : Introduction) (targetType : String) : Bool :=
  introduction.targetPattern.accepts targetType

/-- Whether two introductions may give one target the same capability twice. -/
def conflicts (existing new : Introduction) : Bool :=
  (existing.capabilityType == new.capabilityType || existing.capability.name == new.capability.name) &&
    existing.targetPattern.overlaps new.targetPattern

/-- The description of an introduction. -/
def describe (introduction : Introduction) : String :=
  Text.describeRecord "Introduction"
    [("target_pattern", Text.quoted introduction.targetPattern.text),
     ("capability", Text.quoted introduction.capability.name),
     ("capability_type", Text.quoted introduction.capabilityType)]

end Introduction

/-- The registered introductions. -/
structure IntroductionRegistry where
  /-- The introductions in the order of their registration. -/
  introductions : List Introduction

namespace IntroductionRegistry

/-- The registry without introductions. -/
def empty : IntroductionRegistry := ⟨[]⟩

/-- The number of registered introductions. -/
def size (registry : IntroductionRegistry) : Nat := registry.introductions.length

/-- Registers an introduction that is in conflict with none before. -/
def register (registry : IntroductionRegistry) (introduction : Introduction) :
    Except AopError IntroductionRegistry :=
  match registry.introductions.find? (·.conflicts introduction) with
  | some existing =>
    .error (.configuration (.overlappingCapability introduction.capability.name
      existing.targetPattern.text introduction.targetPattern.text))
  | none => .ok ⟨registry.introductions ++ [introduction]⟩

/-- The log record of a registration. -/
def registrationRecord (introduction : Introduction) : LogRecord :=
  .debug ("introduction '" ++ introduction.capability.name ++ "' registered for '" ++
    introduction.targetPattern.text ++ "'")

/-- The introductions for a target type. -/
def introductionsFor (registry : IntroductionRegistry) (targetType : String) : List Introduction :=
  registry.introductions.filter (·.appliesTo targetType)

end IntroductionRegistry

end Interception
