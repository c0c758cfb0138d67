/-!
# Routing scopes

Every intercepted call has a routing scope of its own, which holds the call's routing key. Scopes form
a stack. A new scope starts with the key of the scope below it, so that a nested call inherits the key
and what it sets stays invisible outside.

A scope is addressed by the number of scopes below it. Leaving a scope removes it together with all
scopes above it, and reading or setting a scope that is no longer there has no effect.
-/

namespace Interception

/-- The keys of the scopes that are open, from the outermost to the innermost. -/
structure RoutingStack where
  /-- The keys from the outermost scope to the innermost. -/
  keys : List (Option String)
  deriving DecidableEq

/-- A scope by its place on the stack. -/
structure RoutingScope where
  /-- The number of scopes that were open when the scope was entered. -/
  below : Nat
  deriving DecidableEq

/-- The depth of a scope on the stack, counted from one. -/
def RoutingScope.depth (scope : RoutingScope) : Nat := scope.below + 1

namespace RoutingStack

/-- No scope is open. -/
def empty : RoutingStack := ⟨[]⟩

/-- The number of scopes that are open. -/
def size (stack : RoutingStack) : Nat := stack.keys.length

/-- The key of the innermost scope. -/
def current (stack : RoutingStack) : Option String := stack.keys.getLast?.join

/-- Enters a scope, which inherits the current key. -/
def enter (stack : RoutingStack) : RoutingScope × RoutingStack :=
  (⟨stack.size⟩, ⟨stack.keys ++ [stack.current]⟩)

/-- The key of a scope, if the scope is open and has one. -/
def get (stack : RoutingStack) (scope : RoutingScope) : Option String :=
  stack.keys[scope.below]?.join

/-- Sets or clears the key of a scope, if the scope is open. -/
def set (stack : RoutingStack) (scope : RoutingScope) (key : Option String) : RoutingStack :=
  ⟨stack.keys.set scope.below key⟩

/-- Leaves a scope and all scopes above it. -/
def leave (stack : RoutingStack) (scope : RoutingScope) : RoutingStack :=
  ⟨stack.keys.take scope.below⟩

end RoutingStack

end Interception
