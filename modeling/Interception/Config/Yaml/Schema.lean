import Interception.Config.Dialect
import Interception.Config.Yaml.Tree

/-!
# YAML as configuration

A plain scalar stands for data of the kind that its text shows: nothing, a truth value, a number, or else
a text. Where data of a certain kind is wanted, the text has to show this kind, and every scalar will do as
a text. A node that is left out counts as an empty list or record where one is wanted.

Digits after a leading zero show no integer, but they are accepted where a number in single precision is
wanted. Integers that fit 128 bits but not 64 are refused as data, and larger ones count as other numbers.
A tag may force the kind of a scalar; tags of an application are refused as data and ignored otherwise.
-/

namespace Interception.Yaml

open Interception.Text

/-! ### Plain scalars -/

/-- Whether a text stands for nothing. -/
def isNull (text : String) : Bool := ["null", "Null", "NULL", "~"].contains text

/-- The truth value that a text shows. -/
def bool? (text : String) : Option Bool :=
  if ["true", "True", "TRUE"].contains text then some true
  else if ["false", "False", "FALSE"].contains text then some false
  else none

/-- The text without a plus sign at its start. No other sign may follow it. -/
def withoutPlus? : List Char → Option (List Char)
  | '+' :: '+' :: _ => none
  | '+' :: '-' :: _ => none
  | '+' :: rest => some rest
  | cs => some cs

/-- Whether a text consists of digits, perhaps with a sign, of which the first is a zero and not the only
one. -/
def hasLeadingZero (cs : List Char) : Bool :=
  match (Decimal.splitSign cs).2 with
  | '0' :: rest => !rest.isEmpty && rest.all (isDigitOf 10)
  | _ => false

/-- The natural number that a text without a sign writes. -/
def natural? (cs : List Char) : Option Nat :=
  match cs with
  | '0' :: 'x' :: run => digits? 16 run
  | '0' :: 'o' :: run => digits? 8 run
  | '0' :: 'b' :: run => digits? 2 run
  | cs => if hasLeadingZero cs then none else digits? 10 cs

/-- The integer that a text writes. -/
def integer? (text : String) : Option Int := do
  match ← withoutPlus? text.toList with
  | '-' :: rest => (natural? rest).map fun n => -(n : Int)
  | cs => (natural? cs).map Int.ofNat

/-- The number in double precision that a text writes. Numbers beyond all finite ones are none. -/
def float? (text : String) : Option Float := do
  let body ← withoutPlus? text.toList
  if [".inf", ".Inf", ".INF"].contains (String.ofList body) then some (1 / 0)
  else if ["-.inf", "-.Inf", "-.INF"].contains text then some (-1 / 0)
  else if [".nan", ".NaN", ".NAN"].contains text then some (0 / 0)
  else
    let x := (← Decimal.read? body).toFloat
    if x.isFinite then some x else none

/-- An integer as data. -/
def integerDocument? (n : Int) : Option Document :=
  if Int64.minValue.toInt ≤ n ∧ n < UInt64.size then some (.integer n) else none

/-- The integer that a text writes as data, if it is not too large to count as one. -/
def sizedInteger? (text : String) : Option Int :=
  (integer? text).filter fun n => -(Nat.pow 2 127 : Int) ≤ n && n < Nat.pow 2 128

/-- What a plain scalar stands for. -/
def plainDocument? (text : String) : Option Document :=
  if text.isEmpty || isNull text then some .null
  else
    match bool? text, sizedInteger? text with
    | some b, _ => some (.bool b)
    | none, some n => integerDocument? n
    | none, none =>
      match if hasLeadingZero text.toList then none else float? text with
      | some x => some (.ofFloat x)
      | none => some (.text text)

/-! ### Trees -/

namespace Tree

/-- Whether a tag belongs to an application. -/
def isLocal (tag : Option String) : Bool := tag.any fun t => t.startsWith "!"

/-- What a scalar stands for. -/
def scalarDocument? (style : Style) (tag : Option String) (text : String) : Option Document :=
  match tag with
  | none => if style = .plain then plainDocument? text else some (.text text)
  | some "tag:yaml.org,2002:bool" => (bool? text).map .bool
  | some "tag:yaml.org,2002:int" => sizedInteger? text >>= integerDocument?
  | some "tag:yaml.org,2002:float" => (float? text).map .ofFloat
  | some "tag:yaml.org,2002:null" => if isNull text then some .null else none
  | tag => if isLocal tag then none else some (.text text)

mutual

/-- The tree as data. -/
def document? : Tree → Option Document
  | nothing => some .null
  | scalar style tag text => scalarDocument? style tag text
  | list tag items => if isLocal tag then none else (itemDocuments? items).map .list
  | record tag fields => if isLocal tag then none else (fieldDocuments? fields).map .ofFields

/-- The items of a list as data. -/
def itemDocuments? : List Tree → Option (List Document)
  | [] => some []
  | item :: items => do some ((← document? item) :: (← itemDocuments? items))

/-- The fields of a record as data. Their names must be scalars. -/
def fieldDocuments? : List (Tree × Tree) → Option (List (String × Document))
  | [] => some []
  | (scalar _ _ name, tree) :: fields => do
    some ((name, ← document? tree) :: (← fieldDocuments? fields))
  | _ => none

end

/-- Whether a node is left out. -/
def isLeftOut : Tree → Bool
  | nothing => true
  | scalar .plain _ "" => true
  | _ => false

/-- The text of a plain scalar. -/
def plainText? : Tree → Option String
  | scalar .plain _ text => some text
  | _ => none

/-- Whether a scalar stands for an absent option. -/
def isAbsent : Tree → Bool
  | nothing => true
  | scalar .plain none text => text.isEmpty || isNull text
  | scalar .plain (some "tag:yaml.org,2002:null") text => isNull text
  | _ => false

/-- What YAML accepts. An integer that cannot be negative has no minus sign. -/
def dialect : Dialect Tree :=
  { integer? := fun low high tree => do
      let text ← plainText? tree
      let n ← Yaml.integer? text
      if low ≤ n ∧ n ≤ high ∧ (low < 0 ∨ !text.startsWith "-") then some n else none
    single? := fun tree => do some (← Yaml.float? (← plainText? tree)).toFloat32
    text? := fun tree =>
      match tree with
      | scalar _ _ text => some text
      | _ => none
    items? := fun tree =>
      match tree with
      | list _ items => some items
      | tree => if tree.isLeftOut then some [] else none
    fields? := fun tree =>
      match tree with
      | record _ fields => fields.mapM fun field =>
        match field with
        | (scalar _ _ name, value) => some (name, value)
        | _ => none
      | tree => if tree.isLeftOut then some [] else none
    document?
    isAbsent
    isIgnorable := fun _ => true
    allowsSurplus := false }

end Tree

end Interception.Yaml
