import Interception.Text.Describe

/-!
# Signatures

A method signature names a method with the types of its parameters and of its result. A call
signature adds the type that declares the method and the interface through which it is called. It is
what pointcuts are matched against. Types are texts and are compared as texts.
-/

namespace Interception

/-- A method by name, parameter types and result type. -/
structure MethodSignature where
  /-- The name of the method. -/
  name : String
  /-- The types of the parameters in order. -/
  params : List String
  /-- The type of the result. -/
  returnType : String
  deriving DecidableEq

/-- A named group of methods. -/
structure InterfaceDescriptor where
  /-- The name of the interface. -/
  name : String
  /-- The methods in the order of their declaration. -/
  methods : List MethodSignature
  deriving DecidableEq

/-- A method as seen by one call: declared by a type and reached through an interface. -/
structure CallSignature where
  /-- The dotted name of the type that declares the method. -/
  declaringType : String
  /-- The interface through which the method is called. -/
  interface : String
  /-- The method itself. -/
  method : MethodSignature
  deriving DecidableEq

/-- The description of a method signature. -/
def MethodSignature.describe (method : MethodSignature) : String :=
  Text.describeRecord "MethodSignature"
    [("name", Text.quoted method.name),
     ("params", Text.describeList (method.params.map Text.quoted)),
     ("return_type", Text.quoted method.returnType)]

namespace CallSignature

/-- The declaring type and the method's name, joined by a dot. -/
def operation (signature : CallSignature) : String :=
  signature.declaringType ++ "." ++ signature.method.name

/-- The signature as it is written in messages: result type, operation and parameter types. -/
def display (signature : CallSignature) : String :=
  signature.method.returnType ++ " " ++ signature.operation ++
    "(" ++ Text.joined ", " signature.method.params ++ ")"

/-- The description of a call signature. -/
def describe (signature : CallSignature) : String :=
  Text.describeRecord "CallSignature"
    [("declaring_type", Text.quoted signature.declaringType),
     ("interface", Text.quoted signature.interface),
     ("method", signature.method.describe)]

end CallSignature

end Interception
