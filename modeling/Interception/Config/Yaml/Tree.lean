import Interception.Config.Yaml.Token

/-!
# Trees of YAML

The tokens of a text form a tree of scalars, lists and records. A node may be given a name and stand under
this name in other places again; it is copied there. Where a node is left out an empty scalar stands
instead. A text may hold one document at most, and a text without any holds nothing.

The reader carries the tokens that are left, the nodes that were named so far and the short forms of
tags.
-/

namespace Interception.Yaml

/-- What a text in YAML says. -/
inductive Tree where
  /-- No document at all. -/
  | nothing
  /-- A text without parts, with its tag if it has one. -/
  | scalar (style : Style) (tag : Option String) (text : String)
  /-- A list. -/
  | list (tag : Option String) (items : List Tree)
  /-- Fields as they are written. -/
  | record (tag : Option String) (fields : List (Tree × Tree))

namespace Tree

/-- The scalar that stands where a node is left out. -/
def empty : Tree := .scalar .plain none ""

/-- What a reader of tokens knows. -/
structure Source where
  /-- The tokens that are left. -/
  tokens : List Token
  /-- The named nodes, the latest first. -/
  named : List (String × Tree)
  /-- The short forms of tags, the latest first. -/
  handles : List (String × String)

/-- Reads tokens from a source. -/
abbrev Parser (α : Type) : Type := StateT Source Option α

namespace Parser

/-- The next token, if there is one. -/
def peek : Parser (Option Token) := do return (← get).tokens.head?

/-- Passes a token. -/
def pass : Parser Unit := modify fun s => { s with tokens := s.tokens.tail }

/-- Passes the given token if it comes next, and says whether it did. -/
def accept (token : Token) : Parser Bool := do
  if (← peek) = some token then
    pass
    return true
  else return false

/-- Passes the given token, which has to come next. -/
def expect (token : Token) : Parser Unit := do
  unless ← accept token do failure

/-- Whether one of the given tokens comes next, or nothing. -/
def isBefore (tokens : List Token) : Parser Bool := do
  match ← peek with
  | some token => return tokens.contains token
  | none => return true

/-- A tag written out in full. -/
def resolveTag (handle suffix : String) : Parser String := do
  if handle.isEmpty then return suffix
  match (← get).handles.lookup handle with
  | some stem => return stem ++ suffix
  | none => failure

/-- The name and the tag before a node, in any order. -/
def properties : Parser (Option String × Option String) := do
  match ← peek with
  | some (.anchor name) =>
    pass
    match ← peek with
    | some (.tag handle suffix) =>
      pass
      return (some name, some (← resolveTag handle suffix))
    | _ => return (some name, none)
  | some (.tag handle suffix) =>
    pass
    let tag ← resolveTag handle suffix
    match ← peek with
    | some (.anchor name) =>
      pass
      return (some name, some tag)
    | _ => return (none, some tag)
  | _ => return (none, none)

/-- Records a node under its name. -/
def record (name : Option String) (tree : Tree) : Parser Tree := do
  match name with
  | some name => modify fun s => { s with named := (name, tree) :: s.named }
  | none => pure ()
  return tree

/-! ### Nodes

The fuel of these readers bounds the depth of their calls. Every second call passes a token. -/

mutual

/-- Reads a node. Between brackets nothing can be made by indentation. The value of a field may be a list
that is not indented. -/
def node (fuel : Nat) (isBlock mayBeLevel : Bool) : Parser Tree :=
  match fuel with
  | 0 => failure
  | fuel + 1 => do
    match ← peek with
    | some (.alias name) =>
      pass
      match (← get).named.lookup name with
      | some tree => return tree
      | none => failure
    | _ =>
      let (name, tag) ← properties
      match ← peek, isBlock with
      | some .entry, true =>
        if mayBeLevel then record name (.list tag (← levelItems fuel)) else bare name tag
      | some (.scalar style text), _ =>
        pass
        record name (.scalar style tag text)
      | some (.flow '['), _ =>
        pass
        record name (.list tag (← flowItems fuel true))
      | some (.flow '{'), _ =>
        pass
        record name (.record tag (← flowFields fuel true))
      | some .blockList, true =>
        pass
        record name (.list tag (← blockItems fuel))
      | some .blockRecord, true =>
        pass
        record name (.record tag (← blockFields fuel))
      | _, _ => bare name tag
where
  /-- A node that consists of its name and tag. -/
  bare (name tag : Option String) : Parser Tree := do
    if name.isNone ∧ tag.isNone then failure
    record name (.scalar .plain tag "")

/-- Reads a node, or nothing if one of the given tokens comes next. -/
def nodeUnless (fuel : Nat) (isBlock mayBeLevel : Bool) (ends : List Token) : Parser Tree :=
  match fuel with
  | 0 => failure
  | fuel + 1 => do if ← isBefore ends then return empty else node fuel isBlock mayBeLevel

/-- Reads the items of an indented list and its end. -/
def blockItems (fuel : Nat) : Parser (List Tree) :=
  match fuel with
  | 0 => failure
  | fuel + 1 => do
    if ← accept .entry then
      let item ← nodeUnless fuel true false [.entry, .blockEnd]
      return item :: (← blockItems fuel)
    else
      expect .blockEnd
      return []

/-- Reads the items of a list that is not indented. -/
def levelItems (fuel : Nat) : Parser (List Tree) :=
  match fuel with
  | 0 => failure
  | fuel + 1 => do
    if ← accept .entry then
      let item ← nodeUnless fuel true false [.entry, .key, .value, .blockEnd]
      return item :: (← levelItems fuel)
    else return []

/-- Reads the fields of an indented record and its end. -/
def blockFields (fuel : Nat) : Parser (List (Tree × Tree)) :=
  match fuel with
  | 0 => failure
  | fuel + 1 => do
    if ← accept .key then
      let name ← nodeUnless fuel true true [.key, .value, .blockEnd]
      let value ← fieldValue fuel true [.key, .value, .blockEnd]
      return (name, value) :: (← blockFields fuel)
    else
      expect .blockEnd
      return []

/-- Reads the value of a field, which may be left out. -/
def fieldValue (fuel : Nat) (isBlock : Bool) (ends : List Token) : Parser Tree :=
  match fuel with
  | 0 => failure
  | fuel + 1 => do
    if ← accept .value then nodeUnless fuel isBlock isBlock ends else return empty

/-- Reads the items of a list between brackets and the bracket after them. A single field without braces
may stand for a record. -/
def flowItems (fuel : Nat) (isFirst : Bool) : Parser (List Tree) :=
  match fuel with
  | 0 => failure
  | fuel + 1 => do
    if ← accept (.flow ']') then return []
    unless isFirst do expect (.flow ',')
    if ← accept .key then
      let name ← node fuel false false
      let value ← fieldValue fuel false [.flow ',', .flow ']']
      return .record none [(name, value)] :: (← flowItems fuel false)
    else if ← accept (.flow ']') then return []
    else
      let item ← node fuel false false
      return item :: (← flowItems fuel false)

/-- Reads the fields of a record between braces and the brace after them. -/
def flowFields (fuel : Nat) (isFirst : Bool) : Parser (List (Tree × Tree)) :=
  match fuel with
  | 0 => failure
  | fuel + 1 => do
    if ← accept (.flow '}') then return []
    unless isFirst do expect (.flow ',')
    if ← accept .key then
      let name ← nodeUnless fuel false false [.value, .flow ',', .flow '}']
      let value ← fieldValue fuel false [.flow ',', .flow '}']
      return (name, value) :: (← flowFields fuel false)
    else if ← accept (.flow '}') then return []
    else
      let name ← node fuel false false
      return (name, empty) :: (← flowFields fuel false)

end

/-! ### Documents -/

/-- Reads the lines before the start of a document and the mark of the start, with at most `limit` such
lines. -/
def documentStart : (limit : Nat) → Parser Unit
  | 0 => failure
  | limit + 1 => do
    match ← peek with
    | some .documentStart => pass
    | some .version =>
      pass
      documentStart limit
    | some (.tagHandle handle stem) =>
      pass
      modify fun s => { s with handles := (handle, stem) :: s.handles }
      documentStart limit
    | _ => failure

/-- Passes marks at the end of a document, of which there are at most `limit`. -/
def documentEnds : (limit : Nat) → Parser Unit
  | 0 => pure ()
  | limit + 1 => do if ← accept .documentEnd then documentEnds limit

/-- Whether the next token can only stand before the start of a document. -/
def isAnnounced : Parser Bool := do
  match ← peek with
  | some .documentStart | some .version | some (.tagHandle _ _) => return true
  | _ => return false

/-- Reads a text that holds one document at most. -/
def wholeText : Parser Tree := do
  let size := (← get).tokens.length
  if size = 0 then return nothing
  let tree ←
    if ← isAnnounced then
      documentStart (size + 1)
      match ← peek with
      | none | some .documentEnd => pure empty
      | _ => if ← isAnnounced then pure empty else node (2 * size + 2) true false
    else node (2 * size + 2) true false
  documentEnds size
  unless (← peek).isNone do failure
  return tree

end Parser

/-- Reads a text that holds one document at most. -/
def read? (text : String) : Option Tree := do
  let tokens ← tokens? text
  let handles := [("!", "!"), ("!!", "tag:yaml.org,2002:")]
  (Parser.wholeText.run ⟨tokens, [], handles⟩).map (·.1)

end Tree

end Interception.Yaml
