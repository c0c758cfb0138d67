import Interception.Directory

/-!
# A service of users

The service keeps the names of users in the order in which they were saved. Saving a name gives the
number of names; a user is found by that number, counted from one. The names live in a cell of shared
memory.
-/

namespace Interception.UserService

/-- The interface of the service. -/
def interface : InterfaceDescriptor :=
  { name := "UserService"
    methods :=
      [{ name := "save", params := ["String"], returnType := "u64" },
       { name := "find", params := ["u64"], returnType := "String" }] }

/-- The names kept in a cell. -/
def namesOf : Value → List String
  | .list names => names
  | _ => []

/-- Saves a name. -/
def save (cell : Nat) : TargetMethod :=
  { takes := [.string]
    result := .u64
    body := fun arguments _ => do
      let kept : Value ← Program.request (Ambient.load cell)
      match arguments with
      | [.string name] =>
        let names := namesOf kept ++ [name]
        Program.request (Ambient.store cell (.list names))
        pure (.ok (.u64 (UInt64.ofNat names.length)))
      | _ => pure (.ok (.u64 (UInt64.ofNat (namesOf kept).length))) }

/-- Finds a user by number. -/
def find (cell : Nat) : TargetMethod :=
  { takes := [.u64]
    result := .string
    body := fun arguments _ => do
      let kept : Value ← Program.request (Ambient.load cell)
      match arguments with
      | [.u64 id] =>
        match (namesOf kept)[(id - 1).toNat]? with
        | some name => pure (.ok (.string name))
        | none => pure (.error (.notFound id))
      | _ => pure (.error (.notFound 0)) }

/-- The methods of the service. -/
def methods (cell : Nat) : List ((String × String) × TargetMethod) :=
  [(("UserService", "save"), save cell), (("UserService", "find"), find cell)]

end Interception.UserService
