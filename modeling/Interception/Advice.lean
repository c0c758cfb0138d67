import Interception.Request

/-!
# Advices and aspects

An advice joins a pointcut with a behaviour that runs at a certain point of the calls it selects. Before
advices run first, around advices enclose the target, and the three kinds of after advices run at the
end: always, on a returned value, or on an error. An advice for errors either lets the error pass on or
swallows it and gives a value in its place.

An aspect is a named list of advices. Pointcuts are given as texts here and are read when the aspect is
registered.
-/

namespace Interception

/-- When an advice runs. -/
inductive AdviceKind where
  /-- Before the target. -/
  | before
  /-- Around the target. -/
  | around
  /-- At the end of every call. -/
  | after
  /-- At the end of a call that returns a value. -/
  | afterReturning
  /-- At the end of a call that fails. -/
  | afterThrowing
  deriving DecidableEq

namespace AdviceKind

/-- Whether advices of the kind run at the end of a call. -/
def isAfterFamily : AdviceKind → Bool
  | after | afterReturning | afterThrowing => true
  | before | around => false

/-- The name of a kind in labels. -/
def name : AdviceKind → String
  | before => "before"
  | around => "around"
  | after => "after"
  | afterReturning => "after_returning"
  | afterThrowing => "after_throwing"

/-- The description of a kind. -/
def describe : AdviceKind → String
  | before => "Before"
  | around => "Around"
  | after => "After"
  | afterReturning => "AfterReturning"
  | afterThrowing => "AfterThrowing"

end AdviceKind

/-- What an advice for errors makes of the error. -/
inductive Disposition where
  /-- The error passes on. -/
  | rethrow
  /-- The call returns a value in place of the error. -/
  | swallow (value : Value)
  deriving DecidableEq

/-- What a before advice does. -/
abbrev BeforeBody := SteeringProgram (Except AopError Unit)

/-- What an around advice does. -/
abbrev AroundBody := SteeringProgram (Except AopError Value)

/-- What an after advice does. -/
abbrev AfterBody := ObservingProgram (Except AopError Unit)

/-- What an advice does with a returned value. -/
abbrev AfterReturningBody := Value → ObservingProgram (Except AopError Unit)

/-- What an advice does with an error. -/
abbrev AfterThrowingBody := AopError → ObservingProgram (Except AopError Disposition)

/-- What an advice does, by its kind. -/
inductive Behavior where
  /-- Runs before the target. -/
  | before (body : BeforeBody)
  /-- Runs around the target. -/
  | around (body : AroundBody)
  /-- Runs at the end of every call. -/
  | after (body : AfterBody)
  /-- Runs at the end of a call that returns a value. -/
  | afterReturning (body : AfterReturningBody)
  /-- Runs at the end of a call that fails. -/
  | afterThrowing (body : AfterThrowingBody)

/-- The kind of a behaviour. -/
def Behavior.kind : Behavior → AdviceKind
  | before _ => .before
  | around _ => .around
  | after _ => .after
  | afterReturning _ => .afterReturning
  | afterThrowing _ => .afterThrowing

/-- A behaviour with the calls it is meant for. -/
structure Advice where
  /-- The text of the pointcut. -/
  pointcut : String
  /-- The place among other advices; zero when it is left open. -/
  order : Option Int32
  /-- The name in messages, if the advice has one of its own. -/
  name : Option String
  /-- What the advice does. -/
  behavior : Behavior

namespace Advice

/-- The kind of an advice. -/
def kind (advice : Advice) : AdviceKind := advice.behavior.kind

/-- The description of an advice. -/
def describe (advice : Advice) : String :=
  Text.describeRecord "Advice"
    [("kind", advice.kind.describe),
     ("pointcut", Text.quoted advice.pointcut),
     ("order", Text.describeOption (advice.order.map fun n => toString n.toInt)),
     ("name", Text.describeOption (advice.name.map Text.quoted))]

end Advice

/-- A named list of advices. -/
structure Aspect where
  /-- The name, which is unique among registered aspects. -/
  name : String
  /-- The advices in the order of their declaration. -/
  advices : List Advice

/-- The description of an aspect. -/
def Aspect.describe (aspect : Aspect) : String :=
  Text.describeRecord "Aspect"
    [("name", Text.quoted aspect.name),
     ("advices", Text.describeList (aspect.advices.map Advice.describe))]

end Interception
