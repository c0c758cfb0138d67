/-!
# Programs that make requests

Advices and targets are code that the library does not know. Such code is represented by what it asks
of its surroundings: a program is finished with a value, breaks off with a panic, or makes a request
and goes on with the answer, whatever it is. A panic while a request is answered breaks the program off
as well, unless the program only attempts the request: then it goes on, and knows the message. What the
answers are is decided by a handler when the program is run.

Running a program changes a state and ends in one of three ways. It returns, it panics, or it has to be
given up because its calls are nested too deeply. The state is kept in all three cases, so that the
surroundings can be restored after a panic.
-/

namespace Interception

/-- How a run ends. -/
inductive Outcome (α : Type) where
  /-- The run returned a value. -/
  | returned (value : α)
  /-- The run broke off with a message. -/
  | panicked (message : String)
  /-- The run was given up because calls were nested too deeply. -/
  | exhausted
  deriving DecidableEq

/-- How an attempt ended. -/
def Outcome.ofAttempt {α : Type} : Except String α → Outcome α
  | .ok value => .returned value
  | .error message => .panicked message

/-- A run on a state of type `σ` with a result of type `α`. -/
def Run (σ α : Type) : Type := σ → Outcome α × σ

namespace Run

variable {σ α β : Type}

/-- Returns a value and leaves the state as it is. -/
def pure (value : α) : Run σ α := fun s => (.returned value, s)

/-- Runs one after the other, the second with the value that the first returns. -/
def bind (first : Run σ α) (next : α → Run σ β) : Run σ β := fun s =>
  match first s with
  | (.returned value, s) => next value s
  | (.panicked message, s) => (.panicked message, s)
  | (.exhausted, s) => (.exhausted, s)

instance : Monad (Run σ) where
  pure := pure
  bind := bind

/-- Runs and returns after a panic as well, with its message. The state is the one in which the run broke
off. -/
def attempt (run : Run σ α) : Run σ (Except String α) := fun s =>
  match run s with
  | (.returned value, s) => (.returned (.ok value), s)
  | (.panicked message, s) => (.returned (.error message), s)
  | (.exhausted, s) => (.exhausted, s)

/-- Gives up. -/
def exhausted : Run σ α := fun s => (.exhausted, s)

/-- Returns what is read from the state. -/
def read (f : σ → α) : Run σ α := fun s => (.returned (f s), s)

/-- Changes the state. -/
def modify (f : σ → σ) : Run σ Unit := fun s => (.returned (), f s)

@[simp] theorem pure_apply (value : α) (s : σ) :
    (Pure.pure value : Run σ α) s = (.returned value, s) := rfl

theorem bind_apply (first : Run σ α) (next : α → Run σ β) (s : σ) :
    (first >>= next) s = match first s with
      | (.returned value, s) => next value s
      | (.panicked message, s) => (.panicked message, s)
      | (.exhausted, s) => (.exhausted, s) := rfl

theorem attempt_apply (run : Run σ α) (s : σ) :
    run.attempt s = match run s with
      | (.returned value, s) => (.returned (.ok value), s)
      | (.panicked message, s) => (.returned (.error message), s)
      | (.exhausted, s) => (.exhausted, s) := rfl

@[simp] theorem read_apply (f : σ → α) (s : σ) : read f s = (.returned (f s), s) := rfl

@[simp] theorem modify_apply (f : σ → σ) (s : σ) : modify f s = (.returned (), f s) := rfl

end Run

/-- Code that may make requests. A request is answered by a value of the type that belongs to it. -/
inductive Program {Request : Type} (Answer : Request → Type) (α : Type) where
  /-- The program is finished. -/
  | done (value : α)
  /-- The program breaks off. -/
  | panic (message : String)
  /-- The program makes a request and goes on with the answer. -/
  | ask (request : Request) (next : Answer request → Program Answer α)
  /-- The program makes a request and goes on with the answer, or with the message of a panic that broke
  the answer off. -/
  | attempt (request : Request) (next : Except String (Answer request) → Program Answer α)

namespace Program

variable {Request : Type} {Answer : Request → Type} {α β σ : Type}

/-- Runs one program after the other. -/
def bind : Program Answer α → (α → Program Answer β) → Program Answer β
  | done value, next => next value
  | panic message, _ => panic message
  | ask request resume, next => ask request fun answer => (resume answer).bind next
  | attempt request resume, next => attempt request fun answer => (resume answer).bind next

instance : Monad (Program Answer) where
  pure := done
  bind := bind

/-- Makes one request and returns the answer. -/
def request (request : Request) : Program Answer (Answer request) := ask request done

/-- Runs a program with a handler for its requests. -/
def run (answer : (request : Request) → Run σ (Answer request)) : Program Answer α → Run σ α
  | done value => Run.pure value
  | panic message => fun s => (.panicked message, s)
  | ask request next => Run.bind (answer request) fun reply => (next reply).run answer
  | attempt request next => Run.bind (answer request).attempt fun reply => (next reply).run answer

@[simp] theorem run_done (answer : (request : Request) → Run σ (Answer request)) (value : α) :
    (done value : Program Answer α).run answer = Run.pure value := rfl

@[simp] theorem run_ask (answer : (request : Request) → Run σ (Answer request)) (request : Request)
    (next : Answer request → Program Answer α) :
    (ask request next).run answer = Run.bind (answer request) fun reply => (next reply).run answer :=
  rfl

@[simp] theorem run_attempt (answer : (request : Request) → Run σ (Answer request)) (request : Request)
    (next : Except String (Answer request) → Program Answer α) :
    (attempt request next).run answer =
      Run.bind (answer request).attempt fun reply => (next reply).run answer :=
  rfl

end Program

end Interception
