import Interception.Proxy

/-!
# Making proxies

A proxy is made from a target's type name and the interfaces to be exposed. The chain of every method is
resolved once. Making a proxy fails when the type name is blank, when a method is declared twice under
one interface name, or when a capability that applies to the type has the name of an exposed interface.

All proxies are numbered by one counter of 64 bits, whatever factory makes them.
-/

namespace Interception

/-- Registries from which proxies are made. -/
structure ProxyFactory where
  /-- The registered advices. -/
  advices : AdviceRegistry
  /-- The registered introductions. -/
  introductions : IntroductionRegistry

/-- The methods of a proxy that is being made. -/
structure MethodTable where
  /-- The methods so far in the order of their declaration. -/
  methods : List DispatchEntry
  /-- The places of the methods by interface and name. -/
  index : List ((String × String) × Nat)

namespace ProxyFactory

/-- A factory without advices and introductions. -/
def empty : ProxyFactory := ⟨.empty, .empty⟩

/-- Adds methods to a table, each with the name of its interface, up to the first that is declared
twice. -/
def expose (targetType : String) (registry : AdviceRegistry) (table : MethodTable) :
    List (String × MethodSignature) → Except AopError MethodTable × AdviceRegistry
  | [] => (.ok table, registry)
  | (interface, method) :: rest =>
    if (table.index.lookup (interface, method.name)).isSome then
      (.error (.configuration (.repeatedMethod interface method.name)), registry)
    else
      let signature : CallSignature := ⟨targetType, interface, method⟩
      let (resolution, registry) := registry.resolve signature
      expose targetType registry
        { methods := table.methods ++ [⟨signature, .ofResolved resolution.advices⟩]
          index := table.index ++ [((interface, method.name), table.methods.length)] } rest

/-- The log record for a new proxy. -/
def creationRecord (proxy : Proxy) : LogRecord :=
  .debug ("proxy created for '" ++ proxy.targetType ++ "' with " ++ toString proxy.methods.length ++
    " methods, " ++ toString (proxy.methods.filter fun entry => entry.chain.size != 0).length ++
    " advised, " ++ toString proxy.capabilities.length ++ " introductions")

/-- The number of the first proxy. -/
def firstNumber : UInt64 := 1

/-- The number for the next proxy after a number was there for one of a target type. It is used up unless the
type name is blank, whether or not the proxy can be made. -/
def numberAfter (number : UInt64) (targetType : String) : UInt64 :=
  if Text.isBlankText targetType then number else number + 1

/-- Makes a proxy with a number that no other proxy has. -/
def create (factory : ProxyFactory) (id : Nat) (targetType : String)
    (interfaces : List InterfaceDescriptor) : Except AopError Proxy × ProxyFactory :=
  if Text.isBlankText targetType then (.error (.configuration .blankTarget), factory)
  else
    let declared := interfaces.flatMap fun i => i.methods.map fun m => (i.name, m)
    match expose targetType factory.advices ⟨[], []⟩ declared with
    | (.error error, advices) => (.error error, { factory with advices })
    | (.ok table, advices) =>
      let factory := { factory with advices }
      let applicable := factory.introductions.introductionsFor targetType
      match applicable.find? fun i => interfaces.any (·.name == i.capability.name) with
      | some clash =>
        (.error (.configuration (.capabilityIsInterface clash.capability.name targetType)), factory)
      | none =>
        (.ok
          { id
            targetType
            interfaces
            methods := table.methods
            index := table.index
            capabilities := applicable.map fun introduction => ⟨introduction, none⟩ }, factory)

end ProxyFactory

end Interception
