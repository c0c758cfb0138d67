import Interception.Proofs.InterfaceTables
import Interception.Proofs.ResolutionOrder

/-!
# What a proxy is made of

A factory refuses to make a proxy for one of three reasons: the type name of the target is blank, a method name is
declared twice under one interface name, or a capability that applies to the type has the name of an exposed
interface. In every other case it makes one, whose methods are the declared ones. They are numbered from zero in the
order of their declaration, the lookup by interface and name finds them and nothing else, and each has the signature
that it was declared with and the chain of what the registry resolves for it.
-/

namespace Interception

/-- Names that are declared more than once are declared twice. -/
theorem DeclaresTwice.of_count {interfaces : List InterfaceDescriptor} {interface name : String}
    (h : 1 < (declaredUnder interfaces interface).count name) : DeclaresTwice interfaces :=
  ⟨interface, fun hdistinct => Nat.not_lt.mpr (List.nodup_iff_count_le_one.mp hdistinct name) h⟩

namespace ProxyFactory

open MethodTable

variable {factory : ProxyFactory} {id : Nat} {targetType : String} {interfaces : List InterfaceDescriptor}

/-- An introduction applies to a target type and its capability has the name of an exposed interface. -/
def Clashes (factory : ProxyFactory) (targetType : String) (interfaces : List InterfaceDescriptor)
    (introduction : Introduction) : Prop :=
  introduction ∈ factory.introductions.introductionsFor targetType ∧
    ∃ interface ∈ interfaces, interface.name = introduction.capability.name

/-- The reasons not to make a proxy, each with its error. -/
inductive Refuses (factory : ProxyFactory) (targetType : String) (interfaces : List InterfaceDescriptor) :
    AopError → Prop where
  /-- The target type has no name. -/
  | blank : Text.isBlankText targetType = true →
    Refuses factory targetType interfaces (.configuration .blankTarget)
  /-- The error names a method that is declared more than once. -/
  | repeated {interface name : String} : 1 < (declaredUnder interfaces interface).count name →
    Refuses factory targetType interfaces (.configuration (.repeatedMethod interface name))
  /-- The error names a capability that is an exposed interface, too. -/
  | clashing {introduction : Introduction} : factory.Clashes targetType interfaces introduction →
    Refuses factory targetType interfaces
      (.configuration (.capabilityIsInterface introduction.capability.name targetType))

/-- The proxy with the table of all declared methods and the capabilities that apply to its target. -/
def furnished (factory : ProxyFactory) (id : Nat) (targetType : String)
    (interfaces : List InterfaceDescriptor) : Proxy where
  id
  targetType
  interfaces
  methods := (ofDeclared targetType factory.advices (declaredMethods interfaces)).methods
  index := (ofDeclared targetType factory.advices (declaredMethods interfaces)).index
  capabilities := (factory.introductions.introductionsFor targetType).map (⟨·, none⟩)

/-- The two ways in which the making of a proxy ends. -/
inductive Creates (factory : ProxyFactory) (id : Nat) (targetType : String)
    (interfaces : List InterfaceDescriptor) : Except AopError Proxy → Prop where
  /-- There is a reason not to make it. -/
  | refused {error : AopError} : factory.Refuses targetType interfaces error →
    Creates factory id targetType interfaces (.error error)
  /-- There is none, and the proxy has all that was declared. -/
  | made : Text.isBlankText targetType = false → ¬ DeclaresTwice interfaces →
    (∀ introduction, ¬ factory.Clashes targetType interfaces introduction) →
    Creates factory id targetType interfaces (.ok (factory.furnished id targetType interfaces))

/-- A capability that is looked for among the exposed interfaces clashes with one of its name. -/
theorem clashes_iff {introduction : Introduction} :
    factory.Clashes targetType interfaces introduction ↔
      introduction ∈ factory.introductions.introductionsFor targetType ∧
        interfaces.any (·.name == introduction.capability.name) = true := by
  simp [Clashes]

/-- The making of a proxy ends in one of the two ways. -/
theorem creates (factory : ProxyFactory) (id : Nat) (targetType : String)
    (interfaces : List InterfaceDescriptor) :
    factory.Creates id targetType interfaces (factory.create id targetType interfaces).1 := by
  have hdistinct := @expose_of_nodup targetType factory.advices (declaredMethods interfaces)
  have htwice := @expose_of_declaresTwice targetType factory.advices interfaces
  have hdeclared : (interfaces.flatMap fun i => i.methods.map fun m => (i.name, m)) =
      declaredMethods interfaces := rfl
  simp only [create, hdeclared]
  generalize expose targetType factory.advices ⟨[], []⟩ (declaredMethods interfaces) = ran at hdistinct htwice
  obtain ⟨result, advices⟩ := ran
  cases hblank : Text.isBlankText targetType with
  | true => exact .refused (.blank hblank)
  | false =>
    by_cases hrepeated : DeclaresTwice interfaces
    · obtain ⟨interface, name, hcount, hresult⟩ := htwice hrepeated
      cases hresult
      exact .refused (.repeated hcount)
    · cases hdistinct (not_not.mp (mt (declaresTwice_iff interfaces).mpr hrepeated))
      simp only [Bool.false_eq_true, if_false]
      cases hclash : (factory.introductions.introductionsFor targetType).find? fun introduction =>
          interfaces.any (·.name == introduction.capability.name) with
      | some clash =>
        have hnamed := List.find?_some (p := fun introduction : Introduction =>
          interfaces.any (·.name == introduction.capability.name)) hclash
        exact .refused (.clashing (clashes_iff.mpr ⟨List.mem_of_find?_eq_some hclash, hnamed⟩))
      | none =>
        refine .made hblank hrepeated fun introduction hclashes => ?_
        obtain ⟨hmem, hnamed⟩ := clashes_iff.mp hclashes
        exact List.find?_eq_none.mp hclash introduction hmem hnamed

/-- The entry at a place is the one of the method that was declared there. -/
theorem entry?_furnished (factory : ProxyFactory) (id : Nat) (targetType : String)
    (interfaces : List InterfaceDescriptor) (place : Nat) :
    Proxy.entry? (factory.furnished id targetType interfaces) ⟨id, place⟩ =
      (declaredMethods interfaces)[place]?.map (entryOf targetType factory.advices) := by
  simp [furnished, ofDeclared, Proxy.entry?]

/-- What is looked up in a proxy is the place of the method that has both names. -/
theorem method_furnished_eq_ok_iff (hdistinct : ¬ DeclaresTwice interfaces) (interface name : String)
    (handle : MethodId) :
    (factory.furnished id targetType interfaces).method interface name = .ok handle ↔
      ∃ place method, (declaredMethods interfaces)[place]? = some method ∧
        methodKey method = (interface, name) ∧ handle = ⟨id, place⟩ := by
  have hnodup := not_not.mp (mt (declaresTwice_iff interfaces).mpr hdistinct)
  have hlookup := (lists_ofDeclared targetType factory.advices (declaredMethods interfaces)).lookup_eq_some_iff
    hnodup (interface, name)
  unfold Proxy.method
  constructor
  · intro h
    split at h
    · next place hplace =>
      obtain ⟨method, hmethod, hkey⟩ := (hlookup place).mp hplace
      cases h
      exact ⟨place, method, hmethod, hkey, rfl⟩
    · cases h
  · rintro ⟨place, method, hmethod, hkey, rfl⟩
    have hplace := (hlookup place).mpr ⟨method, hmethod, hkey⟩
    simp only [furnished, hplace]

/-- What a proxy has of the declared methods and the introductions of its factory. -/
structure Contents (factory : ProxyFactory) (id : Nat) (targetType : String)
    (interfaces : List InterfaceDescriptor) (proxy : Proxy) : Prop where
  /-- The lookup by two names succeeds for the declared methods. -/
  found_iff : ∀ interface name, (∃ handle, proxy.method interface name = .ok handle) ↔
    ∃ method, (interface, method) ∈ declaredMethods interfaces ∧ method.name = name
  /-- It gives identifiers with indices in the order of declaration, from zero on. -/
  places : ∀ place method, (declaredMethods interfaces)[place]? = some method →
    proxy.method method.1 method.2.name = .ok ⟨id, place⟩
  /-- Different names lead to different identifiers. -/
  distinct : ∀ interface name interface' name' handle, proxy.method interface name = .ok handle →
    proxy.method interface' name' = .ok handle → interface = interface' ∧ name = name'
  /-- Every other lookup is an error that names the type and both names. -/
  unknown : ∀ interface name, (¬ ∃ handle, proxy.method interface name = .ok handle) →
    proxy.method interface name = .error (.configuration (.unknownMethod targetType interface name))
  /-- The signatures are those of the declared methods, in their order. -/
  signatures : ∀ place, proxy.signature? ⟨id, place⟩ =
    (declaredMethods interfaces)[place]?.map (calledOn targetType)
  /-- The chains are made of what the registry resolves for the signatures. -/
  chains : ∀ place, proxy.chain? ⟨id, place⟩ = (declaredMethods interfaces)[place]?.map fun method =>
    .ofResolved (factory.advices.resolve (calledOn targetType method)).1.advices
  /-- The names of exposed interfaces and of capabilities that apply are implemented, and no others. -/
  implements_iff : ∀ name, proxy.implements name = true ↔
    (∃ interface ∈ interfaces, interface.name = name) ∨
      ∃ introduction ∈ factory.introductions.introductionsFor targetType, introduction.capability.name = name
  /-- No exposed interface has the name of a capability that applies. -/
  apart : ∀ interface ∈ interfaces, ∀ introduction ∈ factory.introductions.introductionsFor targetType,
    interface.name ≠ introduction.capability.name
  /-- Tables for each interface come to the same entries, find the same methods and are there for the exposed
  interfaces. -/
  tables : ∃ places, (fillTables targetType factory.advices [] (fun _ => none) interfaces).1 =
      .ok (proxy.methods, places) ∧
    (∀ interface name, (proxy.method interface name).toOption =
      (places.find interface name).map fun place => ⟨id, place⟩) ∧
    ∀ name, (places name).isSome = proxy.exposes name

/-- Tables for each interface come to the entries of a furnished proxy and find the same places. -/
theorem exists_fillTables (factory : ProxyFactory) (targetType : String) {interfaces : List InterfaceDescriptor}
    (hdistinct : ¬ DeclaresTwice interfaces) :
    ∃ places, (fillTables targetType factory.advices [] (fun _ => none) interfaces).1 =
        .ok ((declaredMethods interfaces).map (entryOf targetType factory.advices), places) ∧
      (∀ interface name, places.find interface name =
        (ofDeclared targetType factory.advices (declaredMethods interfaces)).index.lookup (interface, name)) ∧
      ∀ name, (places name).isSome = interfaces.any (·.name == name) := by
  have hnodup := not_not.mp (mt (declaresTwice_iff interfaces).mpr hdistinct)
  have hempty : InterfacePlaces.Fill ([], fun _ => none) ⟨[], []⟩ := ⟨rfl, fun _ _ => rfl⟩
  have halike := fillTables_expose hempty targetType factory.advices interfaces
  have hexpose := expose_of_nodup targetType factory.advices hnodup
  generalize fillTables targetType factory.advices [] _ interfaces = ran at halike
  generalize expose targetType factory.advices ⟨[], []⟩ _ = ran' at halike hexpose
  cases halike with
  | failed error registry => cases hexpose
  | @done filled table registry hfill =>
    obtain ⟨hfill, hnames⟩ := hfill
    cases hexpose
    obtain ⟨entries, places⟩ := filled
    obtain rfl := hfill.entries
    exact ⟨places, rfl, hfill.finds, hnames⟩

/-- A furnished proxy has the contents that it should have. -/
theorem contents_furnished (hdistinct : ¬ DeclaresTwice interfaces)
    (hfree : ∀ introduction, ¬ factory.Clashes targetType interfaces introduction) :
    factory.Contents id targetType interfaces (factory.furnished id targetType interfaces) where
  found_iff interface name := by
    constructor
    · rintro ⟨handle, hhandle⟩
      obtain ⟨place, method, hmethod, hkey, -⟩ := (method_furnished_eq_ok_iff hdistinct _ _ _).mp hhandle
      obtain ⟨rfl, hname⟩ := Prod.mk.inj hkey
      exact ⟨method.2, List.mem_of_getElem? hmethod, hname⟩
    · rintro ⟨method, hmem, rfl⟩
      obtain ⟨place, hplace⟩ := List.getElem?_of_mem hmem
      exact ⟨⟨id, place⟩, (method_furnished_eq_ok_iff hdistinct _ _ _).mpr ⟨place, _, hplace, rfl, rfl⟩⟩
  places place method hmethod :=
    (method_furnished_eq_ok_iff hdistinct _ _ _).mpr ⟨place, method, hmethod, rfl, rfl⟩
  distinct interface name interface' name' handle h h' := by
    obtain ⟨place, method, hmethod, hkey, rfl⟩ := (method_furnished_eq_ok_iff hdistinct _ _ _).mp h
    obtain ⟨place', method', hmethod', hkey', hhandle⟩ := (method_furnished_eq_ok_iff hdistinct _ _ _).mp h'
    obtain rfl := (MethodId.mk.inj hhandle).2
    rw [hmethod] at hmethod'
    cases hmethod'
    exact Prod.mk.inj (hkey.symm.trans hkey')
  unknown interface name h := by
    unfold Proxy.method at h ⊢
    split
    · next place hplace => exact absurd ⟨_, by rw [hplace]⟩ h
    · rfl
  signatures place := by
    rw [Proxy.signature?, entry?_furnished, Option.map_map]
    rfl
  chains place := by
    rw [Proxy.chain?, entry?_furnished, Option.map_map]
    rfl
  implements_iff name := by
    simp [Proxy.implements, Proxy.exposes, furnished]
  apart interface hinterface introduction hmem hname :=
    hfree introduction ⟨hmem, interface, hinterface, hname⟩
  tables := by
    obtain ⟨places, hfill, hfinds, hnames⟩ := exists_fillTables factory targetType hdistinct
    refine ⟨places, hfill, fun interface name => ?_, hnames⟩
    rw [hfinds, Proxy.method]
    simp only [furnished]
    cases (ofDeclared targetType factory.advices (declaredMethods interfaces)).index.lookup (interface, name) <;> rfl

/-- The making of a proxy fails for one of the three reasons only, and for each. -/
theorem exists_error_create_iff (factory : ProxyFactory) (id : Nat) (targetType : String)
    (interfaces : List InterfaceDescriptor) :
    (∃ error, (factory.create id targetType interfaces).1 = .error error) ↔
      Text.isBlankText targetType = true ∨ DeclaresTwice interfaces ∨
        ∃ introduction, factory.Clashes targetType interfaces introduction := by
  have hcreates := factory.creates id targetType interfaces
  generalize (factory.create id targetType interfaces).1 = result at hcreates
  cases hcreates with
  | refused hrefuses =>
    refine ⟨fun _ => ?_, fun _ => ⟨_, rfl⟩⟩
    cases hrefuses with
    | blank hblank => exact .inl hblank
    | repeated hcount => exact .inr (.inl (.of_count hcount))
    | clashing hclashes => exact .inr (.inr ⟨_, hclashes⟩)
  | made hnamed hdistinct hfree =>
    constructor
    · rintro ⟨error, herror⟩
      cases herror
    · rintro (hblank | htwice | ⟨introduction, hclashes⟩)
      · rw [hnamed] at hblank
        cases hblank
      · exact absurd htwice hdistinct
      · exact absurd hclashes (hfree introduction)

/-- The making of a proxy fails if the type name is blank, if a method name is declared twice under one interface
name, or if a capability that applies to the type has the name of an exposed interface, and the error names what is
wrong. In every other case the proxy has just the declared methods, in the order of their declaration, with the
chains of what the registry resolves for them before and after, and the capabilities that apply. -/
theorem create_contents (factory : ProxyFactory) (id : Nat) (targetType : String)
    (interfaces : List InterfaceDescriptor) :
    ((∃ error, (factory.create id targetType interfaces).1 = .error error) ↔
      Text.isBlankText targetType = true ∨ DeclaresTwice interfaces ∨
        ∃ introduction, factory.Clashes targetType interfaces introduction) ∧
    (∀ error, (factory.create id targetType interfaces).1 = .error error →
      factory.Refuses targetType interfaces error) ∧
    (∀ proxy, (factory.create id targetType interfaces).1 = .ok proxy →
      factory.Contents id targetType interfaces proxy) ∧
    ∀ signature, ((factory.create id targetType interfaces).2.advices.resolve signature).1.advices =
      (factory.advices.resolve signature).1.advices := by
  have hcreates := factory.creates id targetType interfaces
  refine ⟨factory.exists_error_create_iff id targetType interfaces, fun error herror => ?_,
    fun proxy hproxy => ?_, (factory.precedes_create id targetType interfaces).advices_resolve⟩
  · rw [herror] at hcreates
    cases hcreates with
    | refused hrefuses => exact hrefuses
  · rw [hproxy] at hcreates
    cases hcreates with
    | made _ hdistinct hfree => exact contents_furnished hdistinct hfree

/-- Two descriptors share a name, one has no methods, and two interfaces have a method of the same name. The one
advice is for the third method. -/
theorem create_contents_shared_names :
    let guard : RegisteredAdvice := ⟨"guards", "guard", ⟨"* a.Svc.put(..)", ⟨"*".toList⟩,
      ⟨"a.Svc", [.one ⟨"a".toList⟩, .one ⟨"Svc".toList⟩]⟩, ⟨"put".toList⟩, [.many]⟩, 0, 0,
      .before (pure (.ok ()))⟩
    let advices : AdviceRegistry := ⟨.empty, [guard], ["guards"], [], 0⟩
    let audit : Introduction :=
      ⟨⟨"a..", [.one ⟨"a".toList⟩, .many]⟩, ⟨"Audit", []⟩, "dyn Audit", pure .unit⟩
    let interfaces : List InterfaceDescriptor :=
      [⟨"Svc", [⟨"get", [], "u64"⟩]⟩, ⟨"Idle", []⟩, ⟨"Svc", [⟨"put", ["u64"], "()"⟩]⟩,
        ⟨"Log", [⟨"get", [], "String"⟩]⟩]
    ∃ proxy, ((⟨advices, ⟨[audit]⟩⟩ : ProxyFactory).create 7 "a.Svc" interfaces).1 = .ok proxy ∧
      proxy.method "Svc" "get" = .ok ⟨7, 0⟩ ∧ proxy.method "Svc" "put" = .ok ⟨7, 1⟩ ∧
      proxy.method "Log" "get" = .ok ⟨7, 2⟩ ∧ (¬ ∃ id, proxy.method "Idle" "get" = .ok id) ∧
      proxy.adviceCount ⟨7, 0⟩ = 0 ∧ proxy.adviceCount ⟨7, 1⟩ = 1 ∧
      proxy.implements "Idle" = true ∧ proxy.implements "Audit" = true := by
  intro guard advices audit interfaces
  let factory : ProxyFactory := ⟨advices, ⟨[audit]⟩⟩
  obtain ⟨hfails, _, hmade, _⟩ := create_contents factory 7 "a.Svc" interfaces
  have happlies : audit ∈ factory.introductions.introductionsFor "a.Svc" := by
    have hfits : audit.appliesTo "a.Svc" = true := by cbv
    exact List.mem_filter.mpr ⟨List.mem_cons_self, hfits⟩
  have hsound : ¬ ∃ error, (factory.create 7 "a.Svc" interfaces).1 = .error error := by
    rw [hfails]
    rintro (hblank | htwice | ⟨introduction, hmem, interface, hinterface, hname⟩)
    · cases hblank
    · exact absurd htwice (by decide)
    · obtain rfl := List.mem_singleton.mp (List.mem_of_mem_filter hmem)
      revert hname
      revert interface
      decide
  cases hcreate : (factory.create 7 "a.Svc" interfaces).1 with
  | error error => exact absurd ⟨error, hcreate⟩ hsound
  | ok proxy =>
    have hcontents := hmade proxy hcreate
    have hlength : ∀ signature, (advices.resolve signature).1.advices.length =
        (bif guard.pointcut.accepts signature then [guard] else []).length := fun signature =>
      (AdviceRegistry.select_perm [guard] signature).length_eq.trans (congrArg _ List.filter_singleton)
    have hget : guard.pointcut.accepts ⟨"a.Svc", "Svc", ⟨"get", [], "u64"⟩⟩ = false := by cbv
    have hput : guard.pointcut.accepts ⟨"a.Svc", "Svc", ⟨"put", ["u64"], "()"⟩⟩ = true := by cbv
    have hfirst : proxy.adviceCount ⟨7, 0⟩ = 0 := by
      rw [Proxy.adviceCount, hcontents.chains]
      exact (hlength ⟨"a.Svc", "Svc", ⟨"get", [], "u64"⟩⟩).trans (by rw [hget]; rfl)
    have hsecond : proxy.adviceCount ⟨7, 1⟩ = 1 := by
      rw [Proxy.adviceCount, hcontents.chains]
      exact (hlength ⟨"a.Svc", "Svc", ⟨"put", ["u64"], "()"⟩⟩).trans (by rw [hput]; rfl)
    have hidle : ¬ ∃ id, proxy.method "Idle" "get" = .ok id := by
      rw [hcontents.found_iff]
      rintro ⟨method, hmem, -⟩
      revert hmem
      simp [declaredMethods, interfaces]
    exact ⟨proxy, rfl, hcontents.places 0 _ rfl, hcontents.places 1 _ rfl, hcontents.places 2 _ rfl, hidle,
      hfirst, hsecond, (hcontents.implements_iff _).mpr (.inl ⟨_, .tail _ List.mem_cons_self, rfl⟩),
      (hcontents.implements_iff _).mpr (.inr ⟨audit, happlies, rfl⟩)⟩

end ProxyFactory

end Interception
