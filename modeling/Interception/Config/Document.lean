/-!
# Documents

A document is structured data as it stands in a configuration: null, truth values, numbers, texts, lists
and records. Integers and other numbers are kept apart. The fields of a record stand in the order of
their names, each name once; where a name was given several times, the last field counts.
-/

namespace Interception

/-- Structured data. -/
inductive Document where
  /-- No data. -/
  | null
  /-- A truth value. -/
  | bool (b : Bool)
  /-- A number written as an integer. -/
  | integer (n : Int)
  /-- Any other number. -/
  | real (x : Float)
  /-- A text. -/
  | text (s : String)
  /-- A list of documents. -/
  | list (items : List Document)
  /-- Documents under names. -/
  | record (fields : List (String × Document))

namespace Document

/-- Puts a field into fields ordered by name, in place of one of the same name. -/
def insertField (name : String) (document : Document) :
    List (String × Document) → List (String × Document)
  | [] => [(name, document)]
  | (n, d) :: rest =>
    if name = n then (name, document) :: rest
    else if name < n then (name, document) :: (n, d) :: rest
    else (n, d) :: insertField name document rest

/-- The record of fields in any order. -/
def ofFields (fields : List (String × Document)) : Document :=
  record (fields.foldl (fun sorted field => insertField field.1 field.2 sorted) [])

/-- A number that may not be finite. A document has no place for the others. -/
def ofFloat (x : Float) : Document := if x.isFinite then real x else null

mutual

/-- Whether two documents hold the same data. Integers differ from other numbers. -/
def same : Document → Document → Bool
  | null, null => true
  | bool a, bool b => a == b
  | integer a, integer b => a == b
  | real a, real b => a == b
  | text a, text b => a == b
  | list a, list b => sameItems a b
  | record a, record b => sameFields a b
  | _, _ => false

/-- Whether two lists hold the same data. -/
def sameItems : List Document → List Document → Bool
  | [], [] => true
  | a :: as, b :: bs => same a b && sameItems as bs
  | _, _ => false

/-- Whether two records hold the same data. -/
def sameFields : List (String × Document) → List (String × Document) → Bool
  | [], [] => true
  | (m, a) :: as, (n, b) :: bs => m == n && same a b && sameFields as bs
  | _, _ => false

end

end Document

end Interception
