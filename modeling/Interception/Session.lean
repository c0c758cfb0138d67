import Interception.Config.Catalogue
import Interception.Script
import Interception.UserService

/-!
# Sessions

A session holds a manager, the proxies made from it under names, and the surroundings of their calls. It
is the place where aspects are registered, proxies are made and calls begin. Proxies that were made stay
usable when the manager is replaced.

Every call begins without notes and gives back those that were left during it. Calls of a session are
nested up to a fixed depth.
-/

namespace Interception

/-- A manager with proxies and their surroundings. -/
structure Session where
  /-- The manager from which proxies are made. -/
  manager : Manager
  /-- The aspect types that options may name. -/
  catalogue : Catalogue
  /-- The surroundings of calls. -/
  world : World
  /-- The proxies of scripted targets. -/
  directory : Directory
  /-- The cells that count how often the scripted targets are entered, by name of the proxy. -/
  counters : List (String × Nat)
  /-- The proxies of user services, each with the cell that holds the names. -/
  users : List (String × Service × Nat)
  /-- The number for the next proxy. -/
  number : UInt64

/-- What came of a call. -/
structure CallReport (α : Type) where
  /-- How the call ended. -/
  outcome : Outcome α
  /-- The notes left during the call. -/
  notes : Array Note
  /-- The number of scopes that were open after the call. -/
  scopes : Nat

namespace Session

/-- The greatest depth to which calls may be nested. -/
def maxDepth : Nat := 10000

/-- The aspect types that a session knows from the start. -/
def knownTypes : Catalogue :=
  ((Catalogue.mk []).withBuiltin.register "FixedAspect" .fixed).register "OtherAspect" .routing

/-- A session in which nothing has happened. -/
def initial : Session := ⟨.empty, knownTypes, .initial, .empty, [], [], ProxyFactory.firstNumber⟩

/-- Writes records to the log. -/
def logAll (session : Session) (records : List LogRecord) : Session :=
  { session with world := records.foldl World.log session.world }

/-- Takes the log records out that were written so far. -/
def takeRecords (session : Session) : Array LogRecord × Session :=
  (session.world.records, { session with world := { session.world with records := #[] } })

/-- Carries out an operation of the manager. -/
def apply {α : Type} (session : Session) (reply : Reply Manager α) : Except AopError α × Session :=
  (reply.result, { session with manager := reply.state }.logAll reply.records)

/-- Registers an aspect. -/
def register (session : Session) (aspect : Aspect) : Except AopError Unit × Session :=
  session.apply (session.manager.register aspect)

/-- Makes an aspect from options and registers it. -/
def registerOptions (session : Session) (options : AspectOptions) :
    Except SetupError Unit × Session :=
  let (created, world) := session.catalogue.create options session.world
  let session := { session with world }
  match created with
  | .error error => (.error error, session)
  | .ok aspect =>
    let (result, session) := session.register aspect
    (result.mapError .aop, session)

/-- Registers a logging aspect with the given options, under a name of its own if one is given. -/
def registerLogging (session : Session) (name : Option String) (options : LoggingOptions) :
    Except AopError Unit × Session :=
  match LoggingAspect.create options with
  | .error error => (.error error, session)
  | .ok aspect => session.register ⟨name.getD LoggingAspect.name, aspect.advices⟩

/-- Registers a metric aspect with the given options on the shared or the private registry, under a name
of its own if one is given. -/
def registerMetric (session : Session) (name : Option String) (isShared : Bool)
    (options : MetricOptions) : Except AopError Unit × Session :=
  let (created, world) :=
    if isShared then MetricAspect.createShared options session.world
    else MetricAspect.createPrivate options session.world
  let session := { session with world }
  match created with
  | .error error => (.error error, session)
  | .ok aspect => session.register ⟨name.getD MetricAspect.name, aspect.advices⟩

/-- Replaces the manager by one made from options. The old one stays if that fails. -/
def configure (session : Session) (options : ManagerOptions) : Except SetupError Unit × Session :=
  let (result, catalogue, world) := Manager.ofOptions session.catalogue options session.world
  let session := { session with catalogue, world }
  match result with
  | .error error => (.error error, session)
  | .ok manager => (.ok (), { session with manager })

/-- A maker of instances that are told apart by the number of instances made before. -/
def numberedMaker (cell : Nat) (label : String) : AmbientProgram Value := do
  Script.countUp cell
  let made : Value ← Program.request (Ambient.load cell)
  match made with
  | .u64 n => pure (.string (label ++ "#" ++ toString n.toNat))
  | _ => pure (.string label)

/-- Registers an introduction whose instances are numbered. -/
def introduce (session : Session) (pattern : String) (capability : InterfaceDescriptor)
    (capabilityType label : String) : Except AopError Unit × Session :=
  let (cell, world) := session.world.allocate (.u64 0)
  { session with world }.apply
    (session.manager.introduce pattern capability capabilityType (numberedMaker cell label))

/-- Publishes the registries. -/
def publish (session : Session) : Session := (session.apply session.manager.publish).2

/-- Makes a proxy. -/
def makeProxy (session : Session) (targetType : String) (interfaces : List InterfaceDescriptor) :
    Except AopError Proxy × Session :=
  let (result, session) :=
    session.apply (session.manager.createProxy session.number.toNat targetType interfaces)
  (result, { session with number := ProxyFactory.numberAfter session.number targetType })

/-- A method of a scripted target. -/
structure ScriptedMethod where
  /-- The method as it is exposed. -/
  signature : MethodSignature
  /-- The types at which it takes its arguments. -/
  takes : List ValueType
  /-- The type of its result. -/
  result : ValueType
  /-- What it does. -/
  script : List Action

/-- Makes a proxy of a scripted target and keeps it under a name. -/
def createProxy (session : Session) (name targetType : String)
    (interfaces : List (String × List ScriptedMethod)) : Except AopError Proxy × Session :=
  let descriptors := interfaces.map fun (interface, methods) =>
    InterfaceDescriptor.mk interface (methods.map ScriptedMethod.signature)
  match session.makeProxy targetType descriptors with
  | (.error error, session) => (.error error, session)
  | (.ok proxy, session) =>
    let (cell, world) := session.world.allocate (.u64 0)
    let methods := interfaces.flatMap fun (interface, methods) => methods.map fun m =>
      ((interface, m.signature.name),
        Script.method cell (interface ++ "." ++ m.signature.name) m.takes m.result m.script)
    (.ok proxy,
      { session with
        world
        directory := session.directory.insert name ⟨proxy, methods⟩
        counters := (name, cell) :: session.counters.filter (·.1 != name) })

/-- Makes a proxy of a user service and keeps it under a name. -/
def createUserService (session : Session) (name targetType : String) :
    Except AopError Proxy × Session :=
  match session.makeProxy targetType [UserService.interface] with
  | (.error error, session) => (.error error, session)
  | (.ok proxy, session) =>
    let (cell, world) := session.world.allocate (.list [])
    (.ok proxy,
      { session with
        world
        users := (name, ⟨proxy, UserService.methods cell⟩, cell) ::
          session.users.filter (·.1 != name) })

/-- The dialler of the session. -/
def dial (session : Session) : Dialler := session.directory.dial maxDepth

/-- Carries out a run and reports what came of it. -/
def report {α : Type} (session : Session) (run : Run World α) : CallReport α × Session :=
  let (outcome, world) := run { session.world with notes := #[] }
  ({ outcome, notes := world.notes, scopes := world.scopes.size },
    { session with world := { world with notes := #[] } })

/-- Carries out a run on a thread of its own, which has no open scopes. -/
def reportFresh {α : Type} (session : Session) (run : Run World α) : CallReport α × Session :=
  let kept := session.world.scopes
  let (report, session) :=
    { session with world := { session.world with scopes := .empty } }.report run
  (report, { session with world := { session.world with scopes := kept } })

/-- Calls a method of a service with the identifier that another proxy gives for it. -/
def invokeRun (session : Session) (service : Service) (via : Proxy) (interface method : String)
    (arguments : Arguments) : Run World CallResult :=
  match via.method interface method with
  | .error error => pure (.error error)
  | .ok id => service.invoke session.dial id interface method arguments

/-- Calls a method of a service as `invokeRun` does, and gives errors as service errors. -/
def callRun (session : Session) (service : Service) (via : Proxy) (interface method : String)
    (arguments : Arguments) : Run World (Except ServiceError Value) :=
  match via.method interface method with
  | .error error => pure (.error error.toServiceError)
  | .ok id => service.call session.dial id interface method arguments

/-- Calls a method of a user service. -/
def callUserService (session : Session) (service : Service) (method : String) (argument : Value) :
    CallReport (Except ServiceError Value) × Session :=
  session.report
    (session.callRun service service.proxy UserService.interface.name method ⟨[argument]⟩)

/-- The capability of a type on a proxy, whose instance is made if need be. -/
def capability (session : Session) (name : String) (service : Service) (capabilityType : String) :
    Option Value × Session :=
  match service.proxy.capability session.dial capabilityType session.world with
  | (.returned (found, proxy), world) =>
    (found,
      { session with
        world
        directory := session.directory.insert name { service with proxy } })
  | (_, world) => (none, { session with world })

/-- How often a scripted target was entered. -/
def entries (session : Session) (name : String) : Nat :=
  match (session.counters.lookup name).map session.world.load with
  | some (.u64 n) => n.toNat
  | _ => 0

end Session

end Interception
