import Interception.Proofs.MethodTables
import Interception.Proofs.RegistryHistory
import Mathlib.Data.List.Count
import Mathlib.Data.List.Induction
import Mathlib.Data.List.Nodup

/-!
# Methods that are exposed

A declared method is told by the name of its interface and its own name. Exposing methods ends with an error at
the first that has both names of one before it. If there is none, it ends with a table that has the methods in
their order, each with the chain of what the registry resolves for it, and in which both names of a method lead to
its place.

The registry keeps what it works out on the way. This changes nothing in what it resolves, so every chain is the
one that the registry had for the method at first.
-/

namespace Interception

/-- A registry resolves a signature to the same advices after it resolved another. -/
theorem AdviceRegistry.advices_resolve_resolve (registry : AdviceRegistry) (first signature : CallSignature) :
    ((registry.resolve first).2.resolve signature).1.advices = (registry.resolve signature).1.advices := by
  have hfirst := registry.resolves first
  generalize registry.resolve first = ran at hfirst
  cases hfirst with
  | kept _ => rfl
  | made hnone =>
    by_cases heq : signature = first
    · subst heq
      simp only [resolve, List.lookup_cons_self, hnone]
    · simp only [resolve, List.lookup_cons, beq_eq_false_iff_ne.mpr heq]
      cases registry.resolved.lookup signature <;> rfl

/-- A registry resolves a signature to the same advices after it resolved any others. -/
theorem AdviceRegistry.advices_resolve_after (registry : AdviceRegistry) (earlier : List CallSignature)
    (signature : CallSignature) :
    ((History.after AdviceRegistry.perform registry (earlier.map .resolve)).resolve signature).1.advices =
      (registry.resolve signature).1.advices := by
  induction earlier generalizing registry with
  | nil => rfl
  | cons first earlier ih => exact (ih _).trans (registry.advices_resolve_resolve first signature)

/-- A registry resolves a signature to the same advices after a factory made proxies with it. -/
theorem ProxyFactory.Precedes.advices_resolve {factory later : ProxyFactory} (h : factory.Precedes later)
    (signature : CallSignature) :
    (later.advices.resolve signature).1.advices = (factory.advices.resolve signature).1.advices := by
  obtain ⟨earlier, rfl⟩ := h
  exact factory.advices.advices_resolve_after earlier signature

/-- A declared method as it is called on a target. -/
def calledOn (targetType : String) (method : String × MethodSignature) : CallSignature :=
  ⟨targetType, method.1, method.2⟩

/-- The names of the methods that are declared under a name, by all the descriptors of that name. -/
def declaredUnder (interfaces : List InterfaceDescriptor) (interface : String) : List String :=
  ((interfaces.filter (·.name == interface)).flatMap InterfaceDescriptor.methods).map MethodSignature.name

/-- A method name is declared twice under one interface name, by one descriptor or by two of that name. -/
def DeclaresTwice (interfaces : List InterfaceDescriptor) : Prop :=
  ∃ interface, ¬ (declaredUnder interfaces interface).Nodup

/-- The methods of the first descriptor are declared before those of the others. -/
theorem declaredMethods_cons (first : InterfaceDescriptor) (interfaces : List InterfaceDescriptor) :
    declaredMethods (first :: interfaces) =
      (first.methods.map fun method => (first.name, method)) ++ declaredMethods interfaces := rfl

/-- A descriptor declares two names as often as the second, if the first is its own. -/
theorem count_methodKey (descriptor : InterfaceDescriptor) (interface name : String) :
    ((descriptor.methods.map fun method => (descriptor.name, method)).map methodKey).count (interface, name) =
      if descriptor.name = interface then (descriptor.methods.map MethodSignature.name).count name else 0 := by
  have hkeys : (descriptor.methods.map fun method => (descriptor.name, method)).map methodKey =
      (descriptor.methods.map MethodSignature.name).map (Prod.mk descriptor.name) := by
    rw [List.map_map, List.map_map]
    rfl
  rw [hkeys]
  split
  · next hname =>
    subst hname
    exact List.count_map_of_injective _ _ (fun _ _ hpair => (Prod.mk.inj hpair).2) name
  · next hname => exact List.count_eq_zero.mpr (by simp [hname])

/-- Two names are declared as often as the second is under the first. -/
theorem count_declaredMethods (interfaces : List InterfaceDescriptor) (interface name : String) :
    ((declaredMethods interfaces).map methodKey).count (interface, name) =
      (declaredUnder interfaces interface).count name := by
  induction interfaces with
  | nil => rfl
  | cons first interfaces ih =>
    rw [declaredMethods_cons, List.map_append, List.count_append, count_methodKey, ih]
    by_cases hname : first.name = interface <;> simp [declaredUnder, hname]

/-- Nothing is declared twice if no two methods have the same two names. -/
theorem declaresTwice_iff (interfaces : List InterfaceDescriptor) :
    DeclaresTwice interfaces ↔ ¬ ((declaredMethods interfaces).map methodKey).Nodup := by
  unfold DeclaresTwice
  rw [← not_forall, not_iff_not]
  simp only [List.nodup_iff_count_le_one]
  constructor
  · intro h key
    rw [count_declaredMethods interfaces key.1 key.2]
    exact h key.1 key.2
  · intro h interface name
    rw [← count_declaredMethods]
    exact h (interface, name)

instance (interfaces : List InterfaceDescriptor) : Decidable (DeclaresTwice interfaces) :=
  decidable_of_iff _ (declaresTwice_iff interfaces).symm

/-- A method that is declared after others repeats none of them if its two names are new. -/
theorem nodup_keys_concat (declared : List (String × MethodSignature)) (last : String × MethodSignature) :
    ((declared ++ [last]).map methodKey).Nodup ↔
      (declared.map methodKey).Nodup ∧ methodKey last ∉ declared.map methodKey := by
  rw [List.map_append, List.map_singleton, ← List.concat_eq_append, List.nodup_concat, and_comm]

/-- Among methods of which two have the same two names there is a first that repeats those of one before it. -/
theorem exists_first_repeated {declared : List (String × MethodSignature)}
    (h : ¬ (declared.map methodKey).Nodup) :
    ∃ before method after, declared = before ++ method :: after ∧ (before.map methodKey).Nodup ∧
      methodKey method ∈ before.map methodKey := by
  induction declared using List.reverseRecOn with
  | nil => exact absurd List.nodup_nil h
  | append_singleton declared last ih =>
    by_cases hdistinct : (declared.map methodKey).Nodup
    · refine ⟨declared, last, [], rfl, hdistinct, ?_⟩
      by_contra hnew
      exact h ((nodup_keys_concat declared last).mpr ⟨hdistinct, hnew⟩)
    · obtain ⟨before, method, after, rfl, hbefore, hrepeated⟩ := ih hdistinct
      exact ⟨before, method, after ++ [last], by simp, hbefore, hrepeated⟩

namespace MethodTable

variable {table : MethodTable} {targetType : String} {declared : List (String × MethodSignature)}

/-- The lookup by two names finds a place if a method of these names is declared. -/
theorem Lists.isSome_lookup_iff (h : table.Lists targetType declared) (key : String × String) :
    (table.index.lookup key).isSome = true ↔ key ∈ declared.map methodKey := by
  rw [List.lookup_isSome_iff, h.index, List.mem_map]
  simp only [List.mem_mapIdx]
  constructor
  · rintro ⟨entry, ⟨place, hplace, rfl⟩, hkey⟩
    exact ⟨declared[place], List.getElem_mem hplace, (eq_of_beq hkey).symm⟩
  · rintro ⟨method, hmethod, rfl⟩
    obtain ⟨place, hplace, rfl⟩ := List.getElem_of_mem hmethod
    exact ⟨_, ⟨place, hplace, rfl⟩, beq_self_eq_true _⟩

/-- If no two methods have the same two names, the lookup leads to the one method that has them. -/
theorem Lists.lookup_eq_some_iff (h : table.Lists targetType declared)
    (hdistinct : (declared.map methodKey).Nodup) (key : String × String) (place : Nat) :
    table.index.lookup key = some place ↔ ∃ method, declared[place]? = some method ∧ methodKey method = key := by
  refine ⟨h.getElem?_of_lookup, ?_⟩
  rintro ⟨method, hmethod, rfl⟩
  have hsome := (h.isSome_lookup_iff _).mpr (List.mem_map_of_mem (List.mem_of_getElem? hmethod))
  obtain ⟨found, hfound⟩ := Option.isSome_iff_exists.mp hsome
  obtain ⟨other, hother, hkey⟩ := h.getElem?_of_lookup hfound
  -- both places have the same two names, which no two methods have
  have hplace : (declared.map methodKey)[place]? = (declared.map methodKey)[found]? := by
    rw [List.getElem?_map, List.getElem?_map, hmethod, hother, Option.map_some, Option.map_some, hkey]
  have hlt : place < (declared.map methodKey).length := by
    rw [List.length_map]
    exact (List.getElem?_eq_some_iff.mp hmethod).1
  rw [hfound, (List.getElem?_inj hlt hdistinct).mp hplace]

/-- The entry of a declared method, with the chain of what a registry resolves for it. -/
def entryOf (targetType : String) (registry : AdviceRegistry) (method : String × MethodSignature) :
    DispatchEntry :=
  ⟨calledOn targetType method, .ofResolved (registry.resolve (calledOn targetType method)).1.advices⟩

/-- The table of declared methods. -/
def ofDeclared (targetType : String) (registry : AdviceRegistry) (declared : List (String × MethodSignature)) :
    MethodTable where
  methods := declared.map (entryOf targetType registry)
  index := declared.mapIdx fun place method => (methodKey method, place)

/-- The table of declared methods lists them. -/
theorem lists_ofDeclared (targetType : String) (registry : AdviceRegistry)
    (declared : List (String × MethodSignature)) :
    (ofDeclared targetType registry declared).Lists targetType declared :=
  ⟨List.map_map, rfl⟩

end MethodTable

namespace ProxyFactory

open MethodTable

variable {targetType : String} {registry : AdviceRegistry} {table : MethodTable}

/-- A method with two new names gets its entry and its place, and the rest follows. -/
theorem expose_cons_of_new {method : String × MethodSignature}
    (h : table.index.lookup (methodKey method) = none) (rest : List (String × MethodSignature)) :
    expose targetType registry table (method :: rest) =
      expose targetType (registry.resolve (calledOn targetType method)).2
        ⟨table.methods ++ [entryOf targetType registry method],
          table.index ++ [(methodKey method, table.methods.length)]⟩ rest := by
  obtain ⟨interface, method⟩ := method
  have hnew : table.index.lookup (interface, method.name) = none := h
  rw [expose, hnew]
  rfl

/-- A method with the two names of another ends the exposing. -/
theorem expose_cons_of_repeated {method : String × MethodSignature}
    (h : (table.index.lookup (methodKey method)).isSome = true) (rest : List (String × MethodSignature)) :
    expose targetType registry table (method :: rest) =
      (.error (.configuration (.repeatedMethod method.1 method.2.name)), registry) := by
  obtain ⟨interface, method⟩ := method
  rw [expose]
  exact if_pos h

/-- Methods are exposed one part after the other, unless there is an error in the first. -/
theorem expose_append (targetType : String) (registry : AdviceRegistry) (table : MethodTable)
    (first rest : List (String × MethodSignature)) :
    expose targetType registry table (first ++ rest) =
      match expose targetType registry table first with
      | (.ok later, registry) => expose targetType registry later rest
      | (.error error, registry) => (.error error, registry) := by
  induction first generalizing registry table with
  | nil => rfl
  | cons method first ih =>
    rw [List.cons_append]
    cases hlookup : table.index.lookup (methodKey method) with
    | none =>
      rw [expose_cons_of_new hlookup, expose_cons_of_new hlookup]
      exact ih _ _
    | some place =>
      have hrepeated := Option.isSome_of_eq_some hlookup
      rw [expose_cons_of_repeated hrepeated, expose_cons_of_repeated hrepeated]

/-- A registry resolves a signature to the same advices after methods were exposed. -/
theorem advices_resolve_expose (targetType : String) (registry : AdviceRegistry) (table : MethodTable)
    (declared : List (String × MethodSignature)) (signature : CallSignature) :
    ((expose targetType registry table declared).2.resolve signature).1.advices =
      (registry.resolve signature).1.advices := by
  obtain ⟨earlier, hlater⟩ := exists_expose targetType registry table declared
  rw [hlater]
  exact registry.advices_resolve_after earlier signature

/-- Methods of which no two have the same two names are all exposed. -/
theorem expose_of_nodup (targetType : String) (registry : AdviceRegistry)
    {declared : List (String × MethodSignature)} (h : (declared.map methodKey).Nodup) :
    (expose targetType registry ⟨[], []⟩ declared).1 = .ok (ofDeclared targetType registry declared) := by
  induction declared using List.reverseRecOn with
  | nil => rfl
  | append_singleton declared last ih =>
    obtain ⟨hdistinct, hlast⟩ := (nodup_keys_concat declared last).mp h
    have hlookup : (ofDeclared targetType registry declared).index.lookup (methodKey last) = none := by
      rw [← Option.not_isSome_iff_eq_none, (lists_ofDeclared targetType registry declared).isSome_lookup_iff]
      exact hlast
    -- the last method is resolved by a registry that resolved the others before it
    have hadvices := advices_resolve_expose targetType registry ⟨[], []⟩ declared (calledOn targetType last)
    have hbefore := ih hdistinct
    rw [expose_append]
    generalize expose targetType registry ⟨[], []⟩ declared = ran at hbefore hadvices
    obtain ⟨result, later⟩ := ran
    cases hbefore
    have hentry : entryOf targetType later last = entryOf targetType registry last :=
      congrArg (fun advices => DispatchEntry.mk _ (.ofResolved advices)) hadvices
    simp only [expose_cons_of_new hlookup, hentry]
    simp only [expose, ofDeclared, List.map_append, List.map_singleton, List.mapIdx_concat, List.length_map]

/-- The first method that has both names of one before it ends the exposing. -/
theorem expose_of_repeated (targetType : String) (registry : AdviceRegistry)
    {before : List (String × MethodSignature)} {method : String × MethodSignature}
    (hdistinct : (before.map methodKey).Nodup) (hrepeated : methodKey method ∈ before.map methodKey)
    (after : List (String × MethodSignature)) :
    (expose targetType registry ⟨[], []⟩ (before ++ method :: after)).1 =
      .error (.configuration (.repeatedMethod method.1 method.2.name)) := by
  have hbefore := expose_of_nodup targetType registry hdistinct
  have hlookup := ((lists_ofDeclared targetType registry before).isSome_lookup_iff _).mpr hrepeated
  rw [expose_append]
  generalize expose targetType registry ⟨[], []⟩ before = ran at hbefore
  obtain ⟨result, later⟩ := ran
  cases hbefore
  simp only [expose_cons_of_repeated hlookup]

/-- If two methods have the same two names, the error of the exposing names such a method. -/
theorem expose_of_declaresTwice (targetType : String) (registry : AdviceRegistry)
    {interfaces : List InterfaceDescriptor} (h : DeclaresTwice interfaces) :
    ∃ interface name, 1 < (declaredUnder interfaces interface).count name ∧
      (expose targetType registry ⟨[], []⟩ (declaredMethods interfaces)).1 =
        .error (.configuration (.repeatedMethod interface name)) := by
  obtain ⟨before, method, after, hsplit, hdistinct, hrepeated⟩ :=
    exists_first_repeated ((declaresTwice_iff interfaces).mp h)
  have hresult := expose_of_repeated targetType registry hdistinct hrepeated after
  refine ⟨method.1, method.2.name, ?_, hsplit ▸ hresult⟩
  have hearlier : 0 < (before.map methodKey).count (methodKey method) := List.count_pos_iff.mpr hrepeated
  have htwice : 1 < ((declaredMethods interfaces).map methodKey).count (methodKey method) := by
    rw [hsplit, List.map_append, List.map_cons, List.count_append, List.count_cons_self]
    omega
  rwa [← count_declaredMethods]

end ProxyFactory

end Interception
