import Interception.Proofs.ExposedMethods
import Mathlib.Logic.Function.Basic

/-!
# Tables of methods for each interface

The methods of a proxy may also be kept in one table for each interface name, in which the place of a method is
found by its name. Descriptors are then gone through one after the other. A descriptor goes on with the table of
its name, if another had that name before it, so its methods are set against those of the other. Filling the tables
in this way comes to the same as exposing all declared methods in a row: the entries are the same, the two lookups
after each other find what the one lookup by both names finds, and an error is the same error. Besides, the names
for which there is a table are those of the descriptors, also of the ones without methods.
-/

namespace Interception

/-- The places of methods by their names. -/
abbrev MethodPlaces := String → Option Nat

/-- The places of methods by the names of their interfaces and their own. -/
abbrev InterfacePlaces := String → Option MethodPlaces

namespace InterfacePlaces

/-- The table of an interface, which has no methods if there was none of the name. -/
def table (places : InterfacePlaces) (interface : String) : MethodPlaces :=
  (places interface).getD fun _ => none

/-- The place of a method, looked up in the table of its interface. -/
def find (places : InterfacePlaces) (interface method : String) : Option Nat :=
  (places interface).bind fun table => table method

/-- A table finds what is looked up in it. -/
theorem find_eq (places : InterfacePlaces) (interface method : String) :
    places.find interface method = places.table interface method := by
  unfold find table
  cases places interface <;> rfl

end InterfacePlaces

/-- Goes through the methods of one descriptor, with the entries and the table of its name so far. -/
def fillTable (targetType interface : String) (registry : AdviceRegistry) (entries : List DispatchEntry)
    (places : MethodPlaces) :
    List MethodSignature → Except AopError (List DispatchEntry × MethodPlaces) × AdviceRegistry
  | [] => (.ok (entries, places), registry)
  | method :: rest =>
    if (places method.name).isSome then
      (.error (.configuration (.repeatedMethod interface method.name)), registry)
    else
      let signature : CallSignature := ⟨targetType, interface, method⟩
      let (resolution, registry) := registry.resolve signature
      fillTable targetType interface registry (entries ++ [⟨signature, .ofResolved resolution.advices⟩])
        (Function.update places method.name (some entries.length)) rest

/-- Goes through descriptors, with the entries and the tables so far. -/
def fillTables (targetType : String) (registry : AdviceRegistry) (entries : List DispatchEntry)
    (places : InterfacePlaces) :
    List InterfaceDescriptor → Except AopError (List DispatchEntry × InterfacePlaces) × AdviceRegistry
  | [] => (.ok (entries, places), registry)
  | interface :: rest =>
    match fillTable targetType interface.name registry entries (places.table interface.name)
        interface.methods with
    | (.error error, registry) => (.error error, registry)
    | (.ok (entries, table), registry) =>
      fillTables targetType registry entries (Function.update places interface.name (some table)) rest

/-- Two ways of doing something end alike: with the same error or with related results, and with the same
registry. -/
inductive EndAlike {α β : Type} (related : α → β → Prop) :
    Except AopError α × AdviceRegistry → Except AopError β × AdviceRegistry → Prop where
  /-- Both end with an error. -/
  | failed (error : AopError) (registry : AdviceRegistry) :
    EndAlike related (.error error, registry) (.error error, registry)
  /-- Both come to a result. -/
  | done {result : α} {result' : β} (registry : AdviceRegistry) : related result result' →
    EndAlike related (.ok result, registry) (.ok result', registry)

/-- The entries and the table of one interface beside a table of all methods, which was `before` when the
descriptor was begun. -/
structure MethodPlaces.Fill (before : MethodTable) (interface : String)
    (filled : List DispatchEntry × MethodPlaces) (table : MethodTable) : Prop where
  /-- The entries are the same. -/
  entries : filled.1 = table.methods
  /-- The table of the interface finds its methods. -/
  finds : ∀ name, filled.2 name = table.index.lookup (interface, name)
  /-- What is found for other interfaces stays. -/
  keeps : ∀ other name, other ≠ interface →
    table.index.lookup (other, name) = before.index.lookup (other, name)

/-- A further entry changes nothing for other keys. -/
theorem lookup_concat_of_ne {index : List ((String × String) × Nat)} {key added : String × String}
    (h : key ≠ added) (place : Nat) : (index ++ [(added, place)]).lookup key = index.lookup key := by
  rw [List.lookup_append, List.lookup_cons, beq_eq_false_iff_ne.mpr h]
  exact Option.or_none

/-- A new method is put into both tables. -/
theorem MethodPlaces.Fill.add {before table : MethodTable} {interface : String}
    {entries : List DispatchEntry} {places : MethodPlaces} (h : Fill before interface (entries, places) table)
    {method : MethodSignature} (hnew : table.index.lookup (interface, method.name) = none)
    (entry : DispatchEntry) :
    Fill before interface
      (entries ++ [entry], Function.update places method.name (some entries.length))
      ⟨table.methods ++ [entry], table.index ++ [((interface, method.name), table.methods.length)]⟩ where
  entries := congrArg (· ++ [entry]) h.entries
  finds name := by
    have hentries : entries = table.methods := h.entries
    by_cases heq : name = method.name
    · subst heq
      simp [List.lookup_append, hnew, hentries]
    · rw [lookup_concat_of_ne fun hkey => heq (Prod.mk.inj hkey).2]
      exact (Function.update_of_ne heq _ _).trans (h.finds name)
  keeps other name hother := by
    rw [lookup_concat_of_ne fun hkey => hother (Prod.mk.inj hkey).1]
    exact h.keeps other name hother

/-- Going through the methods of a descriptor comes to the same as exposing them. -/
theorem fillTable_expose {before table : MethodTable} {interface : String} {entries : List DispatchEntry}
    {places : MethodPlaces} (h : MethodPlaces.Fill before interface (entries, places) table)
    (targetType : String) (registry : AdviceRegistry) (methods : List MethodSignature) :
    EndAlike (MethodPlaces.Fill before interface) (fillTable targetType interface registry entries places methods)
      (ProxyFactory.expose targetType registry table (methods.map fun method => (interface, method))) := by
  induction methods generalizing registry table entries places with
  | nil => exact .done registry h
  | cons method methods ih =>
    have hfinds : places method.name = table.index.lookup (interface, method.name) := h.finds method.name
    rw [fillTable, List.map_cons, ProxyFactory.expose, hfinds]
    cases hlookup : table.index.lookup (interface, method.name) with
    | some place => exact .failed _ _
    | none => exact ih (h.add hlookup _) _

/-- The entries and the tables of interfaces beside a table of all methods. -/
structure InterfacePlaces.Fill (filled : List DispatchEntry × InterfacePlaces) (table : MethodTable) : Prop where
  /-- The entries are the same. -/
  entries : filled.1 = table.methods
  /-- The lookup in the table of an interface finds what the lookup by both names finds. -/
  finds : ∀ interface name, filled.2.find interface name = table.index.lookup (interface, name)

/-- Going through descriptors comes to the same as exposing their methods, and gives every descriptor a table. -/
theorem fillTables_expose {table : MethodTable} {entries : List DispatchEntry} {places : InterfacePlaces}
    (h : InterfacePlaces.Fill (entries, places) table) (targetType : String) (registry : AdviceRegistry)
    (interfaces : List InterfaceDescriptor) :
    EndAlike
      (fun filled table => InterfacePlaces.Fill filled table ∧
        ∀ name, (filled.2 name).isSome = ((places name).isSome || interfaces.any (·.name == name)))
      (fillTables targetType registry entries places interfaces)
      (ProxyFactory.expose targetType registry table (declaredMethods interfaces)) := by
  induction interfaces generalizing registry table entries places with
  | nil => exact .done registry ⟨h, fun name => (Bool.or_false _).symm⟩
  | cons interface interfaces ih =>
    -- a descriptor begins with the table that one of its name left
    have hbegun : MethodPlaces.Fill table interface.name (entries, places.table interface.name) table :=
      ⟨h.entries, fun name => (places.find_eq interface.name name).symm.trans (h.finds interface.name name),
        fun _ _ _ => rfl⟩
    have hfirst := fillTable_expose hbegun targetType registry interface.methods
    rw [fillTables, declaredMethods_cons, ProxyFactory.expose_append]
    generalize fillTable targetType interface.name registry entries _ interface.methods = ran at hfirst
    generalize ProxyFactory.expose targetType registry table _ = ran' at hfirst
    cases hfirst with
    | failed error registry => exact .failed error registry
    | @done filled later registry hfill =>
      have hnext : InterfacePlaces.Fill
          (filled.1, Function.update places interface.name (some filled.2)) later := by
        refine ⟨hfill.entries, fun other name => ?_⟩
        by_cases hother : other = interface.name
        · subst hother
          simpa [InterfacePlaces.find] using hfill.finds name
        · have hfinds : places.find other name = table.index.lookup (other, name) := h.finds other name
          rw [hfill.keeps other name hother, ← hfinds]
          simp [InterfacePlaces.find, hother]
      have hrest := ih hnext registry
      have hnames : ∀ name, ((Function.update places interface.name (some filled.2) name).isSome ||
            interfaces.any (·.name == name)) =
          ((places name).isSome || (interface :: interfaces).any (·.name == name)) := by
        intro name
        by_cases hname : name = interface.name
        · subst hname
          simp
        · have hne : (interface.name == name) = false := beq_eq_false_iff_ne.mpr (Ne.symm hname)
          rw [Function.update_of_ne hname, List.any_cons, hne, Bool.false_or]
      simp only [hnames] at hrest
      exact hrest

end Interception
