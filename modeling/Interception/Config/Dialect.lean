import Interception.Config.Document

/-!
# Dialects of configuration

Options can be written in several formats. The formats agree on what an option is and differ in what
they accept as a number, a text or a record. A dialect gives these rules for the trees that a format is
read into. It answers nothing where the format refuses a tree.
-/

namespace Interception

/-- What a format accepts as data of a certain kind. -/
structure Dialect (Tree : Type) where
  /-- An integer between two bounds. -/
  integer? : (low high : Int) → Tree → Option Int
  /-- A number in single precision. -/
  single? : Tree → Option Float32
  /-- A text. -/
  text? : Tree → Option String
  /-- The items of a list. -/
  items? : Tree → Option (List Tree)
  /-- The fields of a record in the order in which they are written. -/
  fields? : Tree → Option (List (String × Tree))
  /-- Any data. -/
  document? : Tree → Option Document
  /-- Whether the tree stands for an absent option. -/
  isAbsent : Tree → Bool
  /-- Whether the tree may stand where nobody looks at it. -/
  isIgnorable : Tree → Bool
  /-- Whether a list that stands for a record may be longer than the record. -/
  allowsSurplus : Bool

namespace Dialect

variable {Tree : Type}

/-- The fields of a record, each of the given names at most once. Other names are ignored. A list may
stand for a record, with the fields in the order of the names. -/
def record? (dialect : Dialect Tree) (names : List String) (tree : Tree) :
    Option (List (String × Tree)) :=
  match dialect.fields? tree with
  | some fields =>
    let known := fields.filter fun field => names.contains field.1
    let others := fields.filter fun field => !names.contains field.1
    if names.all (fun name => (known.filter (·.1 == name)).length ≤ 1) &&
        others.all (fun field => dialect.isIgnorable field.2) then
      some known
    else none
  | none =>
    match dialect.items? tree with
    | some items =>
      if items.length ≤ names.length || dialect.allowsSurplus then some (names.zip items) else none
    | none => none

/-- A field that must be there. -/
def required? {α : Type} (fields : List (String × Tree)) (name : String) (read : Tree → Option α) :
    Option α :=
  (fields.lookup name).bind read

/-- A field that may be left out. -/
def optional? {α : Type} (fields : List (String × Tree)) (name : String) (read : Tree → Option α)
    (default : α) : Option α :=
  match fields.lookup name with
  | some tree => read tree
  | none => some default

/-- An unsigned word of 64 bits. -/
def word? (dialect : Dialect Tree) (tree : Tree) : Option UInt64 :=
  (dialect.integer? 0 (UInt64.size - 1) tree).map fun n => UInt64.ofNat n.toNat

/-- A signed word of 32 bits. -/
def order? (dialect : Dialect Tree) (tree : Tree) : Option Int32 :=
  (dialect.integer? Int32.minValue.toInt Int32.maxValue.toInt tree).map Int32.ofInt

end Dialect

namespace Document

/-- What documents themselves accept: an integer is accepted for any number, but no other number for an
integer. -/
def dialect : Dialect Document :=
  { integer? := fun low high document =>
      match document with
      | integer n => if low ≤ n ∧ n ≤ high then some n else none
      | _ => none
    single? := fun document =>
      match document with
      | integer n => some (Float32.ofInt n)
      | real x => some x.toFloat32
      | _ => none
    text? := fun document =>
      match document with
      | text s => some s
      | _ => none
    items? := fun document =>
      match document with
      | list items => some items
      | _ => none
    fields? := fun document =>
      match document with
      | record fields => some fields
      | _ => none
    document? := some
    isAbsent := fun document =>
      match document with
      | null => true
      | _ => false
    isIgnorable := fun _ => true
    allowsSurplus := false }

end Document

end Interception
