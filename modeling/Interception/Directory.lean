import Interception.Proxy

/-!
# Directories of proxies

Code that takes part in a call can call methods of other proxies, or of the same one, by name. A
directory knows the proxies with the methods of their targets and answers such calls. Calls may be nested
in each other; the depth is bounded by a number given in advance, and a run that would go deeper is given
up.
-/

namespace Interception

/-- A proxy together with its target. -/
structure Service where
  /-- The proxy. -/
  proxy : Proxy
  /-- The methods of the target by interface and name. -/
  methods : List ((String × String) × TargetMethod)

namespace Service

/-- The target's method for an interface and a name. A method that is not there would return nothing. -/
def method (service : Service) (interface method : String) : TargetMethod :=
  (service.methods.lookup (interface, method)).getD
    ⟨[], .unit, fun _ _ => pure (.ok .unit)⟩

/-- Calls a method with an identifier that was looked up before. -/
def invoke (service : Service) (dial : Dialler) (id : MethodId) (interface method : String)
    (arguments : Arguments) : Run World CallResult :=
  let target := service.method interface method
  service.proxy.invoke dial id arguments target.result target.terminal

/-- Calls a method with an identifier that was looked up before, and gives errors as service errors. -/
def call (service : Service) (dial : Dialler) (id : MethodId) (interface method : String)
    (arguments : Arguments) : Run World (Except ServiceError Value) :=
  let target := service.method interface method
  service.proxy.call dial id arguments target.result target.terminal

end Service

/-- Services by name. -/
structure Directory where
  /-- The services, each under its name. -/
  services : List (String × Service)

namespace Directory

/-- No services. -/
def empty : Directory := ⟨[]⟩

/-- The service of a name. -/
def find? (directory : Directory) (name : String) : Option Service := directory.services.lookup name

/-- The directory with a service under a name, in place of any other of that name. -/
def insert (directory : Directory) (name : String) (service : Service) : Directory :=
  ⟨(name, service) :: directory.services.filter (·.1 != name)⟩

/-- Answers calls by name, nested up to a depth. -/
def dial (directory : Directory) : (depth : Nat) → Dialler
  | 0 => fun _ => Run.exhausted
  | depth + 1 => fun request =>
    match directory.find? request.proxy with
    | none => pure (.error (.configuration (.custom ("unknown proxy '" ++ request.proxy ++ "'"))))
    | some service =>
      match service.proxy.method request.interface request.method with
      | .error error => pure (.error error)
      | .ok id =>
        service.invoke (directory.dial depth) id request.interface request.method request.arguments

end Directory

end Interception
