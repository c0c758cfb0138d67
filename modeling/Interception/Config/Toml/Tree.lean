import Interception.Config.Dialect
import Interception.Config.Toml.Lexeme

/-!
# TOML as configuration

A text in TOML assigns values to keys and opens tables under keys. Tables may come into being in several
ways, and it depends on the way whether they may be opened or extended later: a table must not be given
twice.

A whole number is acceptable as a number in single precision, but not the other way round. There is no
value that stands for an absent option.
-/

namespace Interception.Toml

open Interception.Text

/-- How a table came into being. -/
inductive Origin where
  /-- It stands between braces and is complete. -/
  | inline
  /-- It was opened by a header of its own, or is the whole text. -/
  | headed
  /-- It was passed by a header of another table. -/
  | passed
  /-- It was passed by a key with points. -/
  | dotted
  deriving DecidableEq

/-- What a text in TOML says. -/
inductive Tree where
  /-- A truth value. -/
  | bool (b : Bool)
  /-- A whole number. -/
  | integer (n : Int)
  /-- Any other number. -/
  | float (x : Float)
  /-- A text. -/
  | text (s : String)
  /-- A point in time. -/
  | moment (m : Moment)
  /-- A list between brackets. -/
  | list (items : List Tree)
  /-- A table with its fields. -/
  | table (origin : Origin) (fields : List (String × Tree))
  /-- Tables that were opened one after the other under one key. -/
  | tables (items : List Tree)

/-- A table on its own. -/
structure Table where
  /-- How it came into being. -/
  origin : Origin
  /-- Its fields in the order in which they were put. -/
  fields : List (String × Tree)

namespace Table

/-- An empty table. -/
def empty (origin : Origin) : Table := ⟨origin, []⟩

/-- The table as a tree. -/
def toTree (table : Table) : Tree := .table table.origin table.fields

/-- Puts a field, in place of one of the same name. -/
def put (table : Table) (name : String) (tree : Tree) : Table :=
  if (table.fields.lookup name).isSome then
    { table with fields := table.fields.map fun f => if f.1 == name then (name, tree) else f }
  else { table with fields := table.fields ++ [(name, tree)] }

/-- Changes the table at the end of a path. Tables that are missing on the way are made, with `made` as
their origin. Of several tables under one key the last one is meant. A key with points must not pass tables
that have a header of their own. -/
def alter? (made : Origin) (change : Table → Option Table) : List String → Table → Option Table
  | [], table => change table
  | name :: path, table =>
    match table.fields.lookup name with
    | none => do
      let changed ← alter? made change path (empty made)
      some (table.put name changed.toTree)
    | some (.table origin fields) =>
      if origin = .inline ∨ (made = .dotted ∧ origin = .headed) then none
      else do
        let changed ← alter? made change path ⟨origin, fields⟩
        some (table.put name changed.toTree)
    | some (.tables items) =>
      match items.getLast? with
      | some (.table origin fields) => do
        let changed ← alter? made change path ⟨origin, fields⟩
        some (table.put name (.tables (items.dropLast ++ [changed.toTree])))
      | _ => none
    | some _ => none

/-- Assigns a value to a key. A key with points may only extend tables that came from such keys. -/
def assign? (table : Table) (key : List String) (tree : Tree) : Option Table := do
  let name ← key.getLast?
  let path := key.dropLast
  table.alter? .dotted (fun table =>
    if (table.origin = .dotted) = path.isEmpty ∨ (table.fields.lookup name).isSome then none
    else some (table.put name tree)) path

/-- Assigns values to keys in their order. -/
def assignAll? (table : Table) (pairs : List (List String × Tree)) : Option Table :=
  pairs.foldlM (fun table pair => table.assign? pair.1 pair.2) table

end Table

/-! ### Values -/

/-- The value that a bare word stands for. -/
def wordValue? (word : List Char) : Option Tree :=
  match String.ofList word with
  | "true" => some (.bool true)
  | "false" => some (.bool false)
  | _ =>
    match Moment.read? word, integer? word, float? word with
    | some m, _, _ => some (.moment m)
    | none, some n, _ => some (.integer n)
    | none, none, some x => some (.float x)
    | none, none, none => none

/-- The text without blanks, line ends and comments at its start. The text has at most `limit` lines. -/
def skipLinesUpTo : (limit : Nat) → List Char → List Char
  | 0, cs => cs
  | limit + 1, cs =>
    let rest := skipComment (skipSpace cs)
    match afterLineEnd? rest with
    | some rest => skipLinesUpTo limit rest
    | none => rest

/-- The text without blanks, line ends and comments at its start. -/
def skipLines (cs : List Char) : List Char := skipLinesUpTo cs.length cs

mutual

/-- Reads a value. The fuel bounds the number of values and items on the way. -/
def valueUpTo (fuel : Nat) (cs : List Char) : Option (Tree × List Char) :=
  match fuel with
  | 0 => none
  | fuel + 1 =>
    match quotedText? cs with
    | some found => found.map fun (s, rest) => (.text s, rest)
    | none =>
      match cs with
      | '[' :: rest => (itemsUpTo fuel (skipLines rest)).map fun (items, rest) => (.list items, rest)
      | '{' :: rest =>
        match skipSpace rest with
        | '}' :: rest => some (.table .inline [], rest)
        | rest => do
          let (pairs, rest) ← pairsUpTo fuel rest
          let table ← (Table.empty .headed).assignAll? pairs
          some (.table .inline table.fields, rest)
      | cs =>
        let (word, rest) := bareWord cs
        (wordValue? word).map fun tree => (tree, rest)

/-- Reads the items of a list and the bracket after them. A comma may stand before the bracket. -/
def itemsUpTo (fuel : Nat) (cs : List Char) : Option (List Tree × List Char) :=
  match fuel with
  | 0 => none
  | fuel + 1 =>
    match cs with
    | ']' :: rest => some ([], rest)
    | cs => do
      let (item, rest) ← valueUpTo fuel cs
      match skipLines rest with
      | ',' :: rest => do
        let (items, rest) ← itemsUpTo fuel (skipLines rest)
        some (item :: items, rest)
      | ']' :: rest => some ([item], rest)
      | _ => none

/-- Reads the fields of a table between braces and the closing brace. -/
def pairsUpTo (fuel : Nat) (cs : List Char) : Option (List (List String × Tree) × List Char) :=
  match fuel with
  | 0 => none
  | fuel + 1 => do
    let (key, rest) ← key? cs
    match rest with
    | '=' :: rest => do
      let (tree, rest) ← valueUpTo fuel (skipSpace rest)
      match skipSpace rest with
      | ',' :: rest => do
        let (pairs, rest) ← pairsUpTo fuel rest
        some ((key, tree) :: pairs, rest)
      | '}' :: rest => some ([(key, tree)], rest)
      | _ => none
    | _ => none

end

/-- Reads a value. Every step on the way takes a character, or follows one that did. -/
def value? (cs : List Char) : Option (Tree × List Char) := valueUpTo (2 * cs.length + 2) cs

/-! ### Statements -/

/-- A line, or what begins on it. -/
inductive Statement where
  /-- Nothing but blanks and comments. -/
  | blank
  /-- A value for a key. -/
  | assign (key : List String) (tree : Tree)
  /-- The header of a table. -/
  | table (key : List String)
  /-- The header of one of several tables under one key. -/
  | tables (key : List String)

/-- Reads a statement and the rest of its last line. -/
def readStatement : Reader Statement := fun cs =>
  match skipSpace cs with
  | '[' :: '[' :: rest => do
    match ← key? rest with
    | (key, ']' :: ']' :: rest) => (closeLine? rest).map (.tables key, ·)
    | _ => none
  | '[' :: rest => do
    match ← key? rest with
    | (key, ']' :: rest) => (closeLine? rest).map (.table key, ·)
    | _ => none
  | rest =>
    match closeLine? rest with
    | some rest => some (.blank, rest)
    | none => do
      match ← key? rest with
      | (key, '=' :: rest) => do
        let (tree, rest) ← value? (skipSpace rest)
        (closeLine? rest).map (.assign key tree, ·)
      | _ => none

/-- A text that was read down to some header. -/
structure Draft where
  /-- The whole text without the table that is open. -/
  root : Table
  /-- The key of the open table, and whether it is one of several under this key. The table of the whole
  text has no key. -/
  place : Option (Bool × List String)
  /-- The open table. -/
  current : Table

namespace Draft

/-- Puts the open table in its place. -/
def close? (draft : Draft) : Option Table :=
  match draft.place with
  | none => some draft.current
  | some (isRepeated, key) => do
    let name ← key.getLast?
    draft.root.alter? .passed (fun parent =>
      if isRepeated then
        match parent.fields.lookup name with
        | none => some (parent.put name (.tables [draft.current.toTree]))
        | some (.tables items) => some (parent.put name (.tables (items ++ [draft.current.toTree])))
        | some _ => none
      else some (parent.put name draft.current.toTree)) key.dropLast

/-- The table that a header opens: a new one, or one that headers have passed so far. -/
def opened? (root : Table) (isRepeated : Bool) (key : List String) : Option Table := do
  let name ← key.getLast?
  let parent ← lookup? root key.dropLast
  match parent.bind fun parent => parent.fields.lookup name with
  | none => some (.empty .headed)
  | some (.tables _) => if isRepeated then some (.empty .headed) else none
  | some (.table .passed fields) => if isRepeated then none else some ⟨.headed, fields⟩
  | some _ => none
where
  /-- The table at the end of a path, if it is there. There must be nothing but tables on the way. -/
  lookup? (table : Table) : List String → Option (Option Table)
    | [] => some (some table)
    | name :: path =>
      match table.fields.lookup name with
      | none => some none
      | some (.table origin fields) => if origin = .inline then none else lookup? ⟨origin, fields⟩ path
      | some (.tables items) =>
        match items.getLast? with
        | some (.table origin fields) => lookup? ⟨origin, fields⟩ path
        | _ => none
      | some _ => none

/-- Carries out a statement. -/
def step? (draft : Draft) : Statement → Option Draft
  | .blank => some draft
  | .assign key tree => (draft.current.assign? key tree).map fun current => { draft with current }
  | .table key => header false key
  | .tables key => header true key
where
  /-- Closes the open table and opens another. -/
  header (isRepeated : Bool) (key : List String) : Option Draft := do
    let root ← draft.close?
    some ⟨root, some (isRepeated, key), ← opened? root isRepeated key⟩

end Draft

namespace Tree

/-- Reads a whole text. A mark of the byte order may stand at its start. -/
def read? (text : String) : Option Tree := do
  let cs := match text.toList with
    | '\ufeff' :: rest => rest
    | cs => cs
  let statements ← readAll readStatement cs
  let draft ← statements.foldlM Draft.step? ⟨.empty .headed, none, .empty .headed⟩
  (draft.close?).map Table.toTree

/-! ### As data -/

/-- The name under which a point in time stands in data, where it is a record. -/
def momentField : String := "$__toml_private_datetime"

mutual

/-- The tree as data. -/
def document : Tree → Document
  | bool b => .bool b
  | integer n => .integer n
  | float x => .ofFloat x
  | text s => .text s
  | moment m => .record [(momentField, .text m.render)]
  | list items => .list (itemDocuments items)
  | table _ fields => .ofFields (fieldDocuments fields)
  | tables items => .list (itemDocuments items)

/-- The items of a list as data. -/
def itemDocuments : List Tree → List Document
  | [] => []
  | item :: items => document item :: itemDocuments items

/-- The fields of a table as data. -/
def fieldDocuments : List (String × Tree) → List (String × Document)
  | [] => []
  | (name, tree) :: fields => (name, document tree) :: fieldDocuments fields

end

/-- What TOML accepts. -/
def dialect : Dialect Tree :=
  { integer? := fun low high tree =>
      match tree with
      | integer n => if low ≤ n ∧ n ≤ high then some n else none
      | _ => none
    single? := fun tree =>
      match tree with
      | integer n => some (Float32.ofInt n)
      | float x => some x.toFloat32
      | _ => none
    text? := fun tree =>
      match tree with
      | text s => some s
      | _ => none
    items? := fun tree =>
      match tree with
      | list items => some items
      | tables items => some items
      | _ => none
    fields? := fun tree =>
      match tree with
      | table _ fields => some fields
      | moment m => some [(momentField, text m.render)]
      | _ => none
    document? := fun tree => some tree.document
    isAbsent := fun _ => false
    isIgnorable := fun _ => true
    allowsSurplus := true }

end Tree

end Interception.Toml
