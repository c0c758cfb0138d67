import Interception.ProxyFactory

/-!
# Managers

A manager collects aspects and introductions until they are published. Publishing moves the registries to
a place of their own. From then on every registration is refused, and all proxies are made from the same
factory. Making a proxy publishes the registries if that has not happened yet, whether or not the proxy can
be made.

Every operation says which log records it writes.
-/

namespace Interception

/-- What an operation that may fail hands back: its result, the state afterwards and its log records. -/
structure Reply (σ α : Type) where
  /-- The result. -/
  result : Except AopError α
  /-- The state afterwards. -/
  state : σ
  /-- The log records in order. -/
  records : List LogRecord

/-- The registries, in one place before their publication and in another afterwards. -/
structure Manager where
  /-- The registries while they are open. -/
  pending : Option ProxyFactory
  /-- The registries once they are published. -/
  published : Option ProxyFactory

namespace Manager

/-- A manager without aspects and introductions. -/
def empty : Manager := ⟨some .empty, none⟩

/-- Whether the registries are published. -/
def isPublished (manager : Manager) : Bool := manager.published.isSome

/-- The registries, wherever they are. -/
def factory (manager : Manager) : ProxyFactory :=
  (manager.pending.or manager.published).getD .empty

/-- The pointcuts read so far. -/
def cache (manager : Manager) : PointcutCache := manager.factory.advices.cache

/-- The reply of an operation that is refused because the registries are closed. -/
def refusal (manager : Manager) (name : String) : Reply Manager Unit :=
  ⟨.error (.configuration (.published name)), manager, []⟩

/-- Registers an aspect. -/
def register (manager : Manager) (aspect : Aspect) : Reply Manager Unit :=
  match manager.pending with
  | none => manager.refusal aspect.name
  | some factory =>
    let (result, advices) := factory.advices.register aspect
    { result
      state := { manager with pending := some { factory with advices } }
      records := match result with
        | .ok () => [AdviceRegistry.registrationRecord aspect]
        | .error _ => [] }

/-- Registers an introduction that was made before. -/
def registerIntroduction (manager : Manager) (introduction : Introduction) : Reply Manager Unit :=
  match manager.pending with
  | none => manager.refusal introduction.capability.name
  | some factory =>
    match factory.introductions.register introduction with
    | .error error => ⟨.error error, manager, []⟩
    | .ok introductions =>
      { result := .ok ()
        state := { manager with pending := some { factory with introductions } }
        records := [IntroductionRegistry.registrationRecord introduction] }

/-- Makes an introduction and registers it. -/
def introduce (manager : Manager) (pattern : String) (capability : InterfaceDescriptor)
    (capabilityType : String) (maker : AmbientProgram Value) : Reply Manager Unit :=
  match Introduction.create pattern capability capabilityType maker with
  | .error error => ⟨.error error, manager, []⟩
  | .ok introduction => manager.registerIntroduction introduction

/-- The log record of the publication. -/
def publicationRecord (factory : ProxyFactory) : LogRecord :=
  .debug ("registries published, " ++ toString factory.advices.size ++ " advices from " ++
    toString factory.advices.aspects.length ++ " aspects, " ++
    toString factory.introductions.size ++ " introductions")

/-- Publishes the registries, unless they are published already, and hands them back. -/
def publish (manager : Manager) : Reply Manager ProxyFactory :=
  match manager.published with
  | some factory => ⟨.ok factory, manager, []⟩
  | none =>
    match manager.pending with
    | none => ⟨.error (.configuration (.custom "注册表已发布")), manager, []⟩
    | some factory => ⟨.ok factory, ⟨none, some factory⟩, [publicationRecord factory]⟩

/-- Makes a proxy with a number that no other proxy has, publishing first. -/
def createProxy (manager : Manager) (id : Nat) (targetType : String)
    (interfaces : List InterfaceDescriptor) : Reply Manager Proxy :=
  let publication := manager.publish
  match publication.result with
  | .error error => ⟨.error error, publication.state, publication.records⟩
  | .ok factory =>
    let (result, factory) := factory.create id targetType interfaces
    { result
      state := { publication.state with published := some factory }
      records := publication.records ++ match result with
        | .ok proxy => [ProxyFactory.creationRecord proxy]
        | .error _ => [] }

end Manager

end Interception
