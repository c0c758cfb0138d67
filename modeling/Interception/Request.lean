import Interception.Log
import Interception.Note
import Interception.Program

/-!
# Requests of advices and targets

All code on a thread may leave notes, write to the log, read the innermost routing key, call methods
of proxies, count finished calls, let time pass, read the clock, draw a random number, and use cells of
memory that it shares with other code. Targets and the makers of capabilities can do no more than that.

After advices also see the call they belong to. Before and around advices may in addition change its
arguments and its routing key, and ask to proceed.
-/

namespace Interception

/-- A call of a method of a proxy, both given by name. -/
structure ProxyCall where
  /-- The name under which the proxy is known. -/
  proxy : String
  /-- The interface of the method. -/
  interface : String
  /-- The method's name. -/
  method : String
  /-- The arguments of the call. -/
  arguments : Arguments

/-- A request that any code may make. -/
inductive Ambient where
  /-- Leave a note. -/
  | note (note : Note)
  /-- Write to the log. -/
  | log (record : LogRecord)
  /-- Read the innermost routing key and the number of open scopes. -/
  | routing
  /-- Call a method of a proxy. -/
  | call (call : ProxyCall)
  /-- Count a finished call of a method in a meter family, given by its number. -/
  | count (family : Nat) (method : String) (succeeded : Bool)
  /-- Let milliseconds pass. -/
  | sleep (milliseconds : Nat)
  /-- Read the clock, in milliseconds. -/
  | clock
  /-- Draw a random number from zero, included, to one, excluded. -/
  | draw
  /-- Read a cell of shared memory. -/
  | load (cell : Nat)
  /-- Write to a cell of shared memory. -/
  | store (cell : Nat) (value : Value)

/-- The type of the answer to a request that any code may make. -/
def Ambient.Answer : Ambient → Type
  | note _ => Unit
  | log _ => Unit
  | routing => Option String × Nat
  | call _ => Except AopError Value
  | count _ _ _ => Unit
  | sleep _ => Unit
  | clock => Nat
  | draw => Float32
  | load _ => Value
  | store _ _ => Unit

/-- Code of a target. -/
abbrev AmbientProgram (α : Type) := Program Ambient.Answer α

/-- A request of an advice that only sees the call. -/
inductive Observing where
  /-- A request that any code may make. -/
  | ambient (request : Ambient)
  /-- Look at the call. -/
  | view
  /-- Read the description of the call. -/
  | description

/-- The type of the answer to a request of an advice that only sees the call. -/
def Observing.Answer : Observing → Type
  | ambient request => request.Answer
  | view => CallView
  | description => String

/-- Code of an advice that only sees the call. -/
abbrev ObservingProgram (α : Type) := Program Observing.Answer α

/-- A request of an advice that steers the call. -/
inductive Steering where
  /-- A request that any code may make. -/
  | ambient (request : Ambient)
  /-- Look at the call. -/
  | view
  /-- Read the description of the call. -/
  | description
  /-- Replace the arguments. -/
  | setArguments (arguments : Arguments)
  /-- Set or clear the routing key of the call. -/
  | setRoutingKey (key : Option String)
  /-- Run the rest of the chain. -/
  | proceed

/-- The type of the answer to a request of an advice that steers the call. -/
def Steering.Answer : Steering → Type
  | ambient request => request.Answer
  | view => CallView
  | description => String
  | setArguments _ => Unit
  | setRoutingKey _ => Unit
  | proceed => Except AopError Value

/-- Code of an advice that steers the call. -/
abbrev SteeringProgram (α : Type) := Program Steering.Answer α

namespace Steering

/-- Makes a request that any code may make. -/
def ask (request : Ambient) : SteeringProgram request.Answer := Program.request (Steering.ambient request)

/-- Looks at the call. -/
def look : SteeringProgram CallView := Program.request Steering.view

/-- Runs the rest of the chain. -/
def goOn : SteeringProgram (Except AopError Value) := Program.request Steering.proceed

end Steering

end Interception
