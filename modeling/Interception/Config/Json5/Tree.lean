import Interception.Config.Dialect
import Interception.Config.Json5.Token

/-!
# JSON5 as configuration

The tokens of a text are read one by one into a tree. The lists and records that are still open wait on a
stack, each with what it holds so far, and an explicit position says what may come next. A comma may stand
after the last item.

Where a number of a certain kind is wanted, every number of the text is acceptable: it is cut to an
integer and moved to the nearest bound. Where any data is accepted, a number that is written as an integer
must fit 64 bits.
-/

namespace Interception.Json5

/-- What a text in JSON5 says. -/
inductive Tree where
  /-- No data. -/
  | null
  /-- A truth value. -/
  | bool (b : Bool)
  /-- A number. -/
  | number (n : Numeral)
  /-- A text. -/
  | text (s : String)
  /-- A list. -/
  | list (items : List Tree)
  /-- Fields as they are written. -/
  | record (fields : List (String × Tree))

namespace Tree

/-! ### Reading -/

/-- A list or record that is still open. What it holds stands with the latest first. -/
inductive Frame where
  /-- A list that waits for an item. -/
  | list (done : List Tree)
  /-- A record that waits for the value of a field. -/
  | record (done : List (String × Tree)) (name : String)

/-- What may come next. -/
inductive Position where
  /-- A value. -/
  | value
  /-- An item of a list with the given items, or its end. -/
  | item (done : List Tree)
  /-- A name of a field of a record with the given fields, or its end. -/
  | field (done : List (String × Tree))
  /-- The colon between the name and the value of a field. -/
  | colon (done : List (String × Tree)) (name : String)
  /-- What follows a value: a comma, the end of what is open, or the end of the text. -/
  | after (tree : Tree)

/-- Where the reader stands. -/
structure Cursor where
  /-- What is open, the innermost first. -/
  stack : List Frame
  /-- What may come next. -/
  position : Position

/-- Begins a value. -/
def begin? (stack : List Frame) : Token → Option Cursor
  | .mark '[' => some ⟨stack, .item []⟩
  | .mark '{' => some ⟨stack, .field []⟩
  | .mark _ => none
  | .text s => some ⟨stack, .after (.text s)⟩
  | .numeral n => some ⟨stack, .after (.number n)⟩
  | .word "null" true => some ⟨stack, .after .null⟩
  | .word "true" true => some ⟨stack, .after (.bool true)⟩
  | .word "false" true => some ⟨stack, .after (.bool false)⟩
  | .word name true => (Numeral.read? name.toList).map fun n => ⟨stack, .after (.number n)⟩
  | .word _ false => none

/-- Moves over one token. -/
def step? (cursor : Cursor) (token : Token) : Option Cursor :=
  match cursor.position, token, cursor.stack with
  | .value, token, stack => begin? stack token
  | .item done, .mark ']', stack => some ⟨stack, .after (.list done.reverse)⟩
  | .item done, token, stack => begin? (.list done :: stack) token
  | .field done, .mark '}', stack => some ⟨stack, .after (.record done.reverse)⟩
  | .field done, .text name, stack => some ⟨stack, .colon done name⟩
  | .field done, .word name _, stack => some ⟨stack, .colon done name⟩
  | .colon done name, .mark ':', stack => some ⟨.record done name :: stack, .value⟩
  | .after tree, .mark ',', .list done :: stack => some ⟨stack, .item (tree :: done)⟩
  | .after tree, .mark ']', .list done :: stack =>
    some ⟨stack, .after (.list (tree :: done).reverse)⟩
  | .after tree, .mark ',', .record done name :: stack =>
    some ⟨stack, .field ((name, tree) :: done)⟩
  | .after tree, .mark '}', .record done name :: stack =>
    some ⟨stack, .after (.record ((name, tree) :: done).reverse)⟩
  | _, _, _ => none

/-- Reads a text that holds one value. -/
def read? (text : String) : Option Tree := do
  match ← (← tokens? text).foldlM step? ⟨[], .value⟩ with
  | ⟨[], .after tree⟩ => some tree
  | _ => none

/-! ### As data -/

mutual

/-- The tree as data. -/
def document? : Tree → Option Document
  | null => some .null
  | bool b => some (.bool b)
  | number n =>
    match n.integer? with
    | some i => if Int64.minValue.toInt ≤ i ∧ i ≤ Int64.maxValue.toInt then some (.integer i) else none
    | none => some (.ofFloat n.value)
  | text s => some (.text s)
  | list items => (itemDocuments? items).map .list
  | record fields => (fieldDocuments? fields).map .ofFields

/-- The items of a list as data. -/
def itemDocuments? : List Tree → Option (List Document)
  | [] => some []
  | item :: items => do some ((← document? item) :: (← itemDocuments? items))

/-- The fields of a record as data. -/
def fieldDocuments? : List (String × Tree) → Option (List (String × Document))
  | [] => some []
  | (name, tree) :: fields => do some ((name, ← document? tree) :: (← fieldDocuments? fields))

end

/-- The integer part of a number, moved to the nearest bound. What is not a number counts as zero. -/
def truncate (low high : Int) (x : Float) : Int :=
  if x.isNaN then max low (min high 0)
  else
    let size : Int := x.abs.toUInt64.toNat
    max low (min high (if x < 0 then -size else size))

/-- What JSON5 accepts. -/
def dialect : Dialect Tree :=
  { integer? := fun low high tree =>
      match tree with
      | number n => some (truncate low high n.value)
      | _ => none
    single? := fun tree =>
      match tree with
      | number n => some n.value.toFloat32
      | _ => none
    text? := fun tree =>
      match tree with
      | text s => some s
      | _ => none
    items? := fun tree =>
      match tree with
      | list items => some items
      | _ => none
    fields? := fun tree =>
      match tree with
      | record fields => some fields
      | _ => none
    document?
    isAbsent := fun tree =>
      match tree with
      | null => true
      | _ => false
    isIgnorable := fun tree => (document? tree).isSome
    allowsSurplus := true }

end Tree

end Interception.Json5
