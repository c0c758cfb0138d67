import Interception.Chain
import Interception.Introduction

/-!
# Proxies

A proxy stands for a target. It exposes the methods of some interfaces, each with its own chain, and has
the capabilities that were introduced for the type of its target. Methods are looked up by name once and
called by an identifier, which belongs to the proxy that gave it out and is refused by every other.

An instance of a capability is made when it is first asked for and kept from then on.
-/

namespace Interception

/-- A method of a certain proxy. -/
structure MethodId where
  /-- The number of the proxy. -/
  proxy : Nat
  /-- The place of the method in the proxy's table. -/
  index : Nat
  deriving DecidableEq

/-- A method with its chain. -/
structure DispatchEntry where
  /-- The method as it is called. -/
  signature : CallSignature
  /-- The chain that its calls go through. -/
  chain : Chain

/-- A capability of a proxy. -/
structure CapabilitySlot where
  /-- Where the capability comes from. -/
  introduction : Introduction
  /-- The instance, once it was made. -/
  instance? : Option Value

/-- A stand-in for a target. -/
structure Proxy where
  /-- The number that tells the proxy from all others. -/
  id : Nat
  /-- The type name of the target. -/
  targetType : String
  /-- The exposed interfaces. -/
  interfaces : List InterfaceDescriptor
  /-- The methods in the order of their declaration. -/
  methods : List DispatchEntry
  /-- The places of the methods by interface and name. -/
  index : List ((String × String) × Nat)
  /-- The capabilities. -/
  capabilities : List CapabilitySlot

namespace Proxy

/-- Looks up a method by interface and name. -/
def method (proxy : Proxy) (interface method : String) : Except AopError MethodId :=
  match proxy.index.lookup (interface, method) with
  | some index => .ok ⟨proxy.id, index⟩
  | none => .error (.configuration (.unknownMethod proxy.targetType interface method))

/-- The table entry of a method, if the identifier belongs to the proxy. -/
def entry? (proxy : Proxy) (id : MethodId) : Option DispatchEntry :=
  if id.proxy = proxy.id then proxy.methods[id.index]? else none

/-- The signature of a method. -/
def signature? (proxy : Proxy) (id : MethodId) : Option CallSignature :=
  (proxy.entry? id).map DispatchEntry.signature

/-- The chain of a method. -/
def chain? (proxy : Proxy) (id : MethodId) : Option Chain := (proxy.entry? id).map DispatchEntry.chain

/-- The number of advices on a method, zero if the identifier belongs to another proxy. -/
def adviceCount (proxy : Proxy) (id : MethodId) : Nat := ((proxy.chain? id).map Chain.size).getD 0

/-- Whether an interface is exposed. -/
def exposes (proxy : Proxy) (name : String) : Bool := proxy.interfaces.any (·.name == name)

/-- Whether an interface is exposed or a capability of the name is there. -/
def implements (proxy : Proxy) (name : String) : Bool :=
  proxy.exposes name || proxy.capabilities.any (·.introduction.capability.name == name)

/-- The description of a proxy. -/
def describe (proxy : Proxy) : String :=
  Text.describeRecord "Proxy"
    [("target_type", Text.quoted proxy.targetType),
     ("methods", Text.describeList (proxy.methods.map fun entry =>
       Text.quoted (entry.signature.display ++ " [" ++ toString entry.chain.size ++ "]"))),
     ("capabilities", Text.describeList (proxy.capabilities.map fun slot =>
       Text.quoted slot.introduction.capability.name))]

/-- Gives the result at the type that the caller expects. -/
def expect (type : ValueType) : CallResult → CallResult
  | .error error => .error error
  | .ok value =>
    if value.type = type then .ok value else .error (.returnType type.name value.typeName)

/-- Calls a method through its chain. An identifier of another proxy is refused before anything runs. -/
def invoke (proxy : Proxy) (dial : Dialler) (id : MethodId) (arguments : Arguments)
    (result : ValueType) (terminal : Terminal) : Run World CallResult :=
  match proxy.entry? id with
  | none => pure (.error (.configuration (.foreignMethod id.index proxy.targetType)))
  | some entry => do
    let outcome ← entry.chain.execute dial entry.signature arguments terminal
    pure (expect result outcome)

/-- Calls a method and gives errors as service errors. -/
def call (proxy : Proxy) (dial : Dialler) (id : MethodId) (arguments : Arguments)
    (result : ValueType) (terminal : Terminal) : Run World (Except ServiceError Value) := do
  match ← proxy.invoke dial id arguments result terminal with
  | .ok value => pure (.ok value)
  | .error error => pure (.error error.toServiceError)

/-- The capability of a type among slots, with the slots after its instance was asked for. -/
def accessSlots (dial : Dialler) (capabilityType : String) :
    List CapabilitySlot → Run World (Option Value × List CapabilitySlot)
  | [] => pure (none, [])
  | slot :: slots =>
    if slot.introduction.capabilityType = capabilityType then
      match slot.instance? with
      | some value => pure (some value, slot :: slots)
      | none => do
        let value ← slot.introduction.maker.run (Ambient.answer dial)
        pure (some value, { slot with instance? := some value } :: slots)
    else do
      let (found, slots) ← accessSlots dial capabilityType slots
      pure (found, slot :: slots)

/-- The capability of a type, with the proxy after its instance was asked for. -/
def capability (proxy : Proxy) (dial : Dialler) (capabilityType : String) :
    Run World (Option Value × Proxy) := do
  let (found, capabilities) ← accessSlots dial capabilityType proxy.capabilities
  pure (found, { proxy with capabilities })

end Proxy

/-- A method of a target: the types of its parameters and result, and what it does with arguments of
these types. It is also told how many arguments were left over. -/
structure TargetMethod where
  /-- The types of the parameters. -/
  takes : List ValueType
  /-- The type of the result. -/
  result : ValueType
  /-- What the method does. -/
  body : List Value → Nat → AmbientProgram (Except ServiceError Value)

/-- The method as the end of a chain. It is entered only if all its parameters can be taken, and its own
errors become errors of the target. -/
def TargetMethod.terminal (method : TargetMethod) : Terminal := fun arguments =>
  match (ArgumentReader.ofArguments arguments).takeAll method.takes with
  | .error error => .done (.error error)
  | .ok (values, reader) => do
    match ← method.body values reader.remaining.length with
    | .ok value => pure (.ok value)
    | .error error => pure (.error (.target (.service error)))

end Interception
