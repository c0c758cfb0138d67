import Interception.Meters
import Interception.Request
import Interception.Routing

/-!
# The surroundings of a call

The surroundings of running code are the routing scopes of its thread, the notes and log records left so
far, the meters, the clock, the random numbers still to be drawn, and the cells of shared memory. They
answer every request that any code may make, except that a call of another method is passed on to a
dialler.
-/

namespace Interception

/-- The surroundings of running code. -/
structure World where
  /-- The routing scopes that are open. -/
  scopes : RoutingStack
  /-- The notes in the order in which they were left. -/
  notes : Array Note
  /-- The log records in the order in which they were written. -/
  records : Array LogRecord
  /-- The meters. -/
  meters : Meters
  /-- The time in milliseconds. -/
  clock : Nat
  /-- The random numbers still to be drawn; zeros follow them. -/
  draws : List Float32
  /-- The cells of shared memory. -/
  cells : Array Value

/-- Calls a method of a proxy given by name. -/
abbrev Dialler := ProxyCall → Run World (Except AopError Value)

namespace World

/-- Surroundings in which nothing has happened. -/
def initial : World := ⟨.empty, #[], #[], .empty, 0, [], #[]⟩

/-- Leaves a note. -/
def note (world : World) (note : Note) : World := { world with notes := world.notes.push note }

/-- Writes to the log. -/
def log (world : World) (record : LogRecord) : World :=
  { world with records := world.records.push record }

/-- Takes a new cell of shared memory into use. -/
def allocate (world : World) (value : Value) : Nat × World :=
  (world.cells.size, { world with cells := world.cells.push value })

/-- Reads a cell. A cell that was never taken into use holds nothing. -/
def load (world : World) (cell : Nat) : Value := world.cells.getD cell .unit

/-- Writes to a cell. -/
def store (world : World) (cell : Nat) (value : Value) : World :=
  { world with cells := world.cells.setIfInBounds cell value }

end World

/-- Answers a request that any code may make. -/
def Ambient.answer (dial : Dialler) : (request : Ambient) → Run World request.Answer
  | note n => Run.modify (·.note n)
  | log record => Run.modify (·.log record)
  | routing => Run.read fun world => (world.scopes.current, world.scopes.size)
  | call c => dial c
  | count family method succeeded =>
    Run.modify fun world => { world with meters := world.meters.count family method succeeded }
  | sleep milliseconds => Run.modify fun world => { world with clock := world.clock + milliseconds }
  | clock => Run.read World.clock
  | draw => fun world =>
    (.returned (world.draws.headD 0), { world with draws := world.draws.tail })
  | load cell => Run.read (·.load cell)
  | store cell value => Run.modify (·.store cell value)

end Interception
