import Interception.Proofs.FactoryReuse

/-!
# The methods of a proxy

A factory exposes the declared methods in their order. Each is called under the target's type name and the name
of its interface, and the lookup by interface and name leads to its place. So an identifier that a proxy gives
out belongs to the entry of the very method that was looked up, and a proxy refuses every identifier that does
not carry its own number, before anything runs.
-/

namespace Interception

/-- The methods that interfaces declare, each with the name of its interface. -/
def declaredMethods (interfaces : List InterfaceDescriptor) : List (String × MethodSignature) :=
  interfaces.flatMap fun interface => interface.methods.map fun method => (interface.name, method)

/-- The two names of a declared method. -/
def methodKey (method : String × MethodSignature) : String × String := (method.1, method.2.name)

/-- A table that lists declared methods in their order. -/
structure MethodTable.Lists (table : MethodTable) (targetType : String)
    (declared : List (String × MethodSignature)) : Prop where
  /-- The entries are for the declared methods. -/
  signatures : table.methods.map DispatchEntry.signature =
    declared.map fun method => ⟨targetType, method.1, method.2⟩
  /-- The methods are found by interface and name at their places. -/
  index : table.index = declared.mapIdx fun place method => ((method.1, method.2.name), place)

/-- A table without methods lists none. -/
theorem MethodTable.lists_nil (targetType : String) : Lists ⟨[], []⟩ targetType [] := ⟨rfl, rfl⟩

/-- A table has as many entries as methods are declared. -/
theorem MethodTable.Lists.length_eq {table : MethodTable} {targetType : String}
    {declared : List (String × MethodSignature)} (h : table.Lists targetType declared) :
    table.methods.length = declared.length := by
  have hlength := congrArg List.length h.signatures
  rwa [List.length_map, List.length_map] at hlength

/-- A method that is added to a table is declared after the others. -/
theorem MethodTable.Lists.add {table : MethodTable} {targetType : String}
    {declared : List (String × MethodSignature)} (h : table.Lists targetType declared) (interface : String)
    (method : MethodSignature) (chain : Chain) :
    Lists ⟨table.methods ++ [⟨⟨targetType, interface, method⟩, chain⟩],
      table.index ++ [((interface, method.name), table.methods.length)]⟩ targetType
      (declared ++ [(interface, method)]) := by
  refine ⟨?_, ?_⟩
  · rw [List.map_append, List.map_append, h.signatures]
    rfl
  · rw [List.mapIdx_concat, h.index, h.length_eq]

/-- At the place that is found for two names a method of these names is declared. -/
theorem MethodTable.Lists.getElem?_of_lookup {table : MethodTable} {targetType : String}
    {declared : List (String × MethodSignature)} (h : table.Lists targetType declared)
    {key : String × String} {place : Nat} (hlookup : table.index.lookup key = some place) :
    ∃ method, declared[place]? = some method ∧ methodKey method = key := by
  obtain ⟨before, after, hindex, _⟩ := List.lookup_eq_some_iff.mp hlookup
  have hmem : (key, place) ∈ table.index := hindex ▸ List.mem_append_right _ List.mem_cons_self
  rw [h.index] at hmem
  obtain ⟨found, hfound, heq⟩ := List.mem_mapIdx.mp hmem
  obtain ⟨hkey, rfl⟩ := Prod.mk.inj heq
  exact ⟨declared[found], List.getElem?_eq_getElem hfound, hkey⟩

/-- What is looked up in a table leads to the entry of the declared method. -/
theorem MethodTable.Lists.exists_entry {table : MethodTable} {targetType : String}
    {declared : List (String × MethodSignature)} (h : table.Lists targetType declared)
    {interface name : String} {place : Nat} (hlookup : table.index.lookup (interface, name) = some place) :
    ∃ entry method, table.methods[place]? = some entry ∧ (interface, method) ∈ declared ∧
      method.name = name ∧ entry.signature = ⟨targetType, interface, method⟩ := by
  obtain ⟨⟨interface, method⟩, hmethod, hkey⟩ := h.getElem?_of_lookup hlookup
  obtain ⟨rfl, hname⟩ := Prod.mk.inj hkey
  have hsignature := congrArg (·[place]?) h.signatures
  simp only [List.getElem?_map, hmethod, Option.map_some, Option.map_eq_some_iff] at hsignature
  obtain ⟨entry, hentry, heq⟩ := hsignature
  exact ⟨entry, method, hentry, List.mem_of_getElem? hmethod, hname, heq⟩

namespace ProxyFactory

/-- What is exposed are the declared methods, after those that the table lists. -/
theorem expose_lists {targetType : String} {registry : AdviceRegistry} {table later : MethodTable}
    {before declared : List (String × MethodSignature)} (h : table.Lists targetType before)
    (hexpose : (expose targetType registry table declared).1 = .ok later) :
    later.Lists targetType (before ++ declared) := by
  induction declared generalizing registry table before with
  | nil =>
    cases hexpose
    rwa [List.append_nil]
  | cons first declared ih =>
    obtain ⟨interface, method⟩ := first
    rw [expose] at hexpose
    split at hexpose
    · cases hexpose
    · have hrest := ih (h.add interface method _) hexpose
      rwa [List.append_assoc] at hrest

/-- A proxy that a factory made. -/
structure Made (factory : ProxyFactory) (id : Nat) (targetType : String)
    (interfaces : List InterfaceDescriptor) (proxy : Proxy) : Prop where
  /-- It has the number that it was given. -/
  id_eq : proxy.id = id
  /-- The type name is not blank. -/
  named : Text.isBlankText targetType = false
  /-- It stands for a target of the type. -/
  targetType_eq : proxy.targetType = targetType
  /-- It exposes the interfaces. -/
  interfaces_eq : proxy.interfaces = interfaces
  /-- It lists the methods of the interfaces. -/
  table : MethodTable.Lists ⟨proxy.methods, proxy.index⟩ targetType (declaredMethods interfaces)
  /-- It has the capabilities that apply to the type, and no instance of them yet. -/
  capabilities : proxy.capabilities = (factory.introductions.introductionsFor targetType).map (⟨·, none⟩)

/-- If a factory makes a proxy, it makes it so. -/
theorem made_of_create {factory : ProxyFactory} {id : Nat} {targetType : String}
    {interfaces : List InterfaceDescriptor} {proxy : Proxy}
    (h : (factory.create id targetType interfaces).1 = .ok proxy) :
    factory.Made id targetType interfaces proxy := by
  unfold create at h
  split at h
  · cases h
  · next hnamed =>
    simp only at h
    have hlists := @expose_lists targetType factory.advices ⟨[], []⟩
    split at h
    · cases h
    · next table advices hexpose =>
      split at h
      · cases h
      · cases h
        have htable := hlists (MethodTable.lists_nil targetType) (congrArg Prod.fst hexpose)
        exact ⟨rfl, Bool.eq_false_iff.mpr hnamed, rfl, rfl, htable, rfl⟩

/-- A factory with the same introductions makes a proxy in the same way. -/
theorem Made.of_introductions_eq {factory later : ProxyFactory} {id : Nat} {targetType : String}
    {interfaces : List InterfaceDescriptor} {proxy : Proxy}
    (h : factory.Made id targetType interfaces proxy)
    (hsame : later.introductions = factory.introductions) : later.Made id targetType interfaces proxy :=
  { h with capabilities := hsame ▸ h.capabilities }

end ProxyFactory

end Interception
