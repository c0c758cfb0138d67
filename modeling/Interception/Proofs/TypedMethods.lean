import Interception.Proofs.ProgramRuns
import Interception.Proxy

/-!
# Methods with static types

A caller knows the types of a method's parameters and of its result, and so does the target. In between,
arguments and results are values that carry their types along. Packing the arguments of a call pushes
them one after the other; the target takes them back at the types of its parameters. Nothing is lost on
the way: the method is entered with exactly the arguments that the caller packed.
-/

namespace Interception

/-- What values of a type consist of. -/
def ValueType.Carrier : ValueType → Type
  | unit => Unit
  | bool => Bool
  | u8 => UInt8
  | u32 => UInt32
  | u64 => UInt64
  | i32 => Int32
  | i64 => Int64
  | string => String
  | str => String
  | bytes => List UInt8
  | list => List String
  | opt => Option String

/-- The value of a type with the given content. -/
def Value.of : (type : ValueType) → type.Carrier → Value
  | .unit, _ => unit
  | .bool, content => bool content
  | .u8, content => u8 content
  | .u32, content => u32 content
  | .u64, content => u64 content
  | .i32, content => i32 content
  | .i64, content => i64 content
  | .string, content => string content
  | .str, content => str content
  | .bytes, content => bytes content
  | .list, content => list content
  | .opt, content => opt content

/-- The content of a value at a type, if that is its type. -/
def Value.content? : (type : ValueType) → Value → Option type.Carrier
  | .unit, unit => some ()
  | .bool, bool content => some content
  | .u8, u8 content => some content
  | .u32, u32 content => some content
  | .u64, u64 content => some content
  | .i32, i32 content => some content
  | .i64, i64 content => some content
  | .string, string content => some content
  | .str, str content => some content
  | .bytes, bytes content => some content
  | .list, list content => some content
  | .opt, opt content => some content
  | _, _ => none

/-- A value has the type that it was made of. -/
@[simp] theorem Value.type_of (type : ValueType) (content : type.Carrier) :
    (Value.of type content).type = type := by cases type <;> rfl

/-- A value gives back the content that it was made of. -/
@[simp] theorem Value.content?_of (type : ValueType) (content : type.Carrier) :
    (Value.of type content).content? type = some content := by cases type <;> rfl

/-- Arguments of the given types. -/
inductive TypedValues : List ValueType → Type where
  /-- No arguments. -/
  | nil : TypedValues []
  /-- One more argument in front. -/
  | cons {type : ValueType} {types : List ValueType} (content : type.Carrier)
    (rest : TypedValues types) : TypedValues (type :: types)

namespace TypedValues

variable {types : List ValueType}

/-- The arguments as values. -/
def values {types : List ValueType} : TypedValues types → List Value
  | nil => []
  | @cons type _ content rest => Value.of type content :: rest.values

/-- The arguments, packed one after the other. -/
def pack (arguments : TypedValues types) : Arguments := arguments.values.foldl Arguments.push .empty

/-- Values as arguments of the given types, if they have these types. -/
def ofValues? : (types : List ValueType) → List Value → Option (TypedValues types)
  | [], [] => some nil
  | type :: types, value :: values => do
    let content ← value.content? type
    let rest ← ofValues? types values
    pure (cons content rest)
  | _, _ => none

/-- Arguments are packed in their order. -/
theorem pack_values (arguments : TypedValues types) : arguments.pack.values = arguments.values := by
  have hpush : ∀ (values : List Value) (packed : Arguments),
      (values.foldl Arguments.push packed).values = packed.values ++ values := by
    intro values
    induction values with
    | nil => exact fun packed => (List.append_nil _).symm
    | cons value values ih =>
      intro packed
      rw [List.foldl_cons, ih, Arguments.push, List.append_assoc]
      rfl
  exact hpush arguments.values .empty

/-- Arguments are found again among their values. -/
theorem ofValues?_values (arguments : TypedValues types) :
    ofValues? types arguments.values = some arguments := by
  induction arguments with
  | nil => rfl
  | @cons type types content rest ih =>
    rw [values, ofValues?, Value.content?_of, ih]
    rfl

/-- Taking arguments at their types takes all of them, in their order. -/
theorem takeAll_values (arguments : TypedValues types) (index : Nat) :
    (ArgumentReader.mk arguments.values index).takeAll types =
      .ok (arguments.values, ⟨[], index + types.length⟩) := by
  induction arguments generalizing index with
  | nil => rfl
  | @cons type types content rest ih =>
    rw [values, ArgumentReader.takeAll, ArgumentReader.take]
    simp only [Value.type_of, reduceIte, ih, List.length_cons]
    rw [Nat.add_assoc, Nat.add_comm 1]

end TypedValues

/-- A method of a target whose parameters have the given types. -/
structure TypedMethod (types : List ValueType) where
  /-- The type of the result. -/
  result : ValueType
  /-- What the method does. -/
  body : TypedValues types → AmbientProgram (Except ServiceError result.Carrier)

namespace TypedMethod

variable {types : List ValueType}

/-- The answer of a method, as a caller gets it that knows the type of the result. -/
def valueOf (method : TypedMethod types) (answer : Except ServiceError method.result.Carrier) :
    Except ServiceError Value := answer.map (Value.of method.result)

/-- The answer of a method, as its proxy gives it back. -/
def resultOf (method : TypedMethod types) (answer : Except ServiceError method.result.Carrier) :
    CallResult := (method.valueOf answer).mapError fun error => .target (.service error)

/-- The method as a target has it, on values that carry their types along. Values of other types never
reach it. -/
def erase (method : TypedMethod types) : TargetMethod where
  takes := types
  result := method.result
  body values _ :=
    match TypedValues.ofValues? types values with
    | some arguments => method.body arguments >>= fun answer => pure (method.valueOf answer)
    | none => .panic "arguments of other types"

end TypedMethod

/-- Programs one after the other run one after the other. -/
theorem Program.run_bind {Request : Type} {Answer : Request → Type} {α β σ : Type}
    (answer : (request : Request) → Run σ (Answer request)) (first : Program Answer α)
    (next : α → Program Answer β) :
    (first >>= next).run answer = first.run answer >>= fun value => (next value).run answer := by
  induction first with
  | done value => rfl
  | panic message => rfl
  | ask request resume ih =>
    refine Eq.trans ?_ (Run.bind_assoc (answer request) _ _).symm
    exact congrArg (Run.bind _) (funext ih)
  | attempt request resume ih =>
    refine Eq.trans ?_ (Run.bind_assoc (answer request).attempt _ _).symm
    exact congrArg (Run.bind _) (funext ih)

namespace TypedMethod

variable {types : List ValueType}

/-- A method that is entered with arguments of its types answers, and what is left over does not matter. -/
theorem run_terminal_of_takeAll (method : TypedMethod types) (contents : TypedValues types)
    {arguments : Arguments} {reader : ArgumentReader} (answer : (request : Ambient) → Run World request.Answer)
    (htaken : (ArgumentReader.ofArguments arguments).takeAll types = .ok (contents.values, reader)) :
    (method.erase.terminal arguments).run answer =
      (method.body contents).run answer >>= fun result => pure (method.resultOf result) := by
  have htaken : (ArgumentReader.ofArguments arguments).takeAll method.erase.takes =
      .ok (contents.values, reader) := htaken
  have hbody : method.erase.body contents.values reader.remaining.length =
      method.body contents >>= fun answer => pure (method.valueOf answer) := by
    simp only [erase, contents.ofValues?_values]
  rw [TargetMethod.terminal, htaken]
  simp only [hbody, Program.run_bind]
  funext world
  simp only [Run.bind_apply]
  generalize (method.body contents).run answer world = ran
  obtain ⟨outcome, left⟩ := ran
  cases outcome with
  | returned result => cases result <;> rfl
  | panicked message => rfl
  | exhausted => rfl

/-- A method is entered with exactly the arguments that were packed, and its answer is given back. -/
theorem run_terminal_pack (method : TypedMethod types)
    (arguments : TypedValues types) (answer : (request : Ambient) → Run World request.Answer) :
    (method.erase.terminal arguments.pack).run answer =
      (method.body arguments).run answer >>= fun result => pure (method.resultOf result) := by
  have htaken : (ArgumentReader.ofArguments arguments.pack).takeAll types =
      .ok (arguments.values, ⟨[], 0 + types.length⟩) := by
    rw [ArgumentReader.ofArguments, arguments.pack_values]
    exact arguments.takeAll_values 0
  exact method.run_terminal_of_takeAll arguments answer htaken

end TypedMethod

end Interception
