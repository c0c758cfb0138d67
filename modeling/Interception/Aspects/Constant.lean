import Interception.Advice

/-!
# Aspects with a constant effect

A fixed aspect answers the calls it selects with a constant, so that the target is never entered. A
routing aspect sets the routing key of the calls it selects to a constant.
-/

namespace Interception

/-- The options of an aspect with a constant effect. -/
structure ConstantOptions where
  /-- The constant. -/
  value : UInt64
  /-- The text of the pointcut. -/
  pointcut : String
  deriving DecidableEq

/-- The one advice of a fixed aspect. Zero is no acceptable constant. -/
def ConstantOptions.fixedAdvice (options : ConstantOptions) : Except AopError Advice :=
  if options.value = 0 then .error (.configuration (.custom "value 不能为 0"))
  else
    .ok
      { pointcut := options.pointcut
        order := none
        name := none
        behavior := .around (pure (.ok (.u64 options.value))) }

/-- The one advice of a routing aspect. -/
def ConstantOptions.routingAdvice (options : ConstantOptions) : Advice :=
  { pointcut := options.pointcut
    order := none
    name := some "other"
    behavior := .before do
      Program.request (Steering.setRoutingKey (some (toString options.value.toNat)))
      pure (.ok ()) }

end Interception
