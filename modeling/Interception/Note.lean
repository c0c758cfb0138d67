import Interception.Config.Document
import Interception.Invocation.View

/-!
# Notes

Code that takes part in a call may leave notes about what it sees. The notes of a call, in the order in
which they were left, show what ran and what it was given.
-/

namespace Interception

/-- What a note says. -/
inductive Note where
  /-- A mark chosen by whoever left the note. -/
  | mark (document : Document)
  /-- The call as an advice sees it, with the innermost routing key and the number of open scopes. -/
  | call (view : CallView) (current : Option String) (scopes : Nat)
  /-- The description of the call. -/
  | description (text : String)
  /-- The value that the call returned, where one is known. -/
  | value (value : Option Value)
  /-- The error that the call ended with, where one is known. -/
  | thrown (error : Option AopError)
  /-- The innermost routing key and the number of open scopes. -/
  | routing (current : Option String) (scopes : Nat)
  /-- What came of replacing an argument. -/
  | replaced (result : Except AopError Unit)
  /-- Whether an argument was overwritten by one of its own type. -/
  | overwritten (done : Bool)
  /-- What came of proceeding. -/
  | proceeded (result : Except AopError Value)
  /-- What came of another call. -/
  | called (result : Except AopError Value)
  /-- The target was entered with these arguments, and `rest` more were not taken. -/
  | target (method : String) (arguments : List Value) (rest : Nat) (current : Option String)
      (scopes : Nat)

end Interception
