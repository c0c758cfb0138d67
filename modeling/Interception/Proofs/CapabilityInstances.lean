import Interception.Proofs.ProxyHistories

/-!
# Instances of capabilities

A proxy has a slot for every introduction of its manager that applies to its type. No two of them are for the
same type of capability, since the introductions would be in conflict. As long as all makers return, the makers
that were run for a proxy are those whose slots hold an instance, each was run once and made that instance, and
these are the slots that were asked for. What an access finds, and how often the maker of an introduction was
run, can be read off from this.
-/

namespace Interception

/-- The run of the maker to which a slot owes its instance. -/
def CapabilitySlot.run? (slot : CapabilitySlot) : Option MakerRun :=
  slot.instance?.map fun value => ⟨slot.introduction, .returned value⟩

/-- An access leaves every capability of a proxy with its introduction. -/
theorem Proxy.Accesses.introductions_eq {proxy : Proxy} {dial : Dialler} {capabilityType : String}
    {world : World} {ran : Outcome (Option Value × Proxy) × World} {runs : List MakerRun}
    (h : proxy.Accesses dial capabilityType world ran runs) :
    (proxy.settle ran.1).capabilities.map CapabilitySlot.introduction =
      proxy.capabilities.map CapabilitySlot.introduction := by
  cases h with
  | missing _ => rfl
  | kept _ _ _ => rfl
  | made hslots _ _ _ =>
    rw [hslots, Proxy.settle, List.map_append, List.map_append]
    rfl
  | @brokenOff _ _ _ outcome _ _ _ _ _ hbroken =>
    cases outcome with
    | returned result => exact absurd rfl (hbroken result)
    | panicked message => rfl
    | exhausted => rfl

/-- A member of a list with at most one member is the only one. -/
theorem eq_singleton_of_mem {α : Type} {a : α} {list : List α} (h : a ∈ list) (hlength : list.length ≤ 1) :
    list = [a] := by
  match list, h, hlength with
  | [_], h, _ => rw [List.mem_singleton.mp h]

/-- The introductions of a type of capability that apply to a target type. -/
def IntroductionRegistry.offered (registry : IntroductionRegistry) (targetType capabilityType : String) :
    List Introduction :=
  (registry.introductionsFor targetType).filter (·.capabilityType = capabilityType)

/-- In a consistent registry at most one introduction of a type of capability applies to a target type. -/
theorem IntroductionRegistry.IsConsistent.length_offered {registry : IntroductionRegistry}
    (h : registry.IsConsistent) (targetType capabilityType : String) :
    (registry.offered targetType capabilityType).length ≤ 1 := by
  have hdiffer : (registry.offered targetType capabilityType).Pairwise fun a b => ¬ a.SameCapability b :=
    (h.introductionsFor targetType).filter _
  have htype : ∀ introduction ∈ registry.offered targetType capabilityType,
      introduction.capabilityType = capabilityType := fun _ hmem =>
    of_decide_eq_true (List.mem_filter.mp hmem).2
  generalize registry.offered targetType capabilityType = offered at hdiffer htype
  match offered, hdiffer, htype with
  | [], _, _ => exact Nat.zero_le 1
  | [_], _, _ => exact Nat.le_refl 1
  | a :: b :: others, hdiffer, htype =>
    have hb : b ∈ a :: b :: others := List.mem_cons_of_mem a List.mem_cons_self
    have hsame : a.capabilityType = b.capabilityType := (htype a List.mem_cons_self).trans (htype b hb).symm
    exact absurd (.inr hsame) ((List.pairwise_cons.mp hdiffer).1 b List.mem_cons_self)

namespace Workshop

variable {workshop later : Workshop} {place : Nat} {owner : MadeProxy}
  {slots before after : List CapabilitySlot} {runs : List MakerRun}

/-- The runs of makers for the proxy at a place. -/
def runsAt (workshop : Workshop) (place : Nat) : List MakerRun :=
  (workshop.makings.filter fun making => making.place = place).map Making.run

/-- The slots of the proxy at a place tell which makers were run for it and what it was asked for. -/
structure Settled (workshop : Workshop) (place : Nat) (slots : List CapabilitySlot) : Prop where
  /-- The makers that were run are those to which slots owe their instances, and each was run once. -/
  runs : (workshop.runsAt place).Perm (slots.filterMap CapabilitySlot.run?)
  /-- There is an instance exactly if the capability was asked for. -/
  accessed : ∀ slot ∈ slots,
    slot.instance?.isSome = true ↔ (place, slot.introduction.capabilityType) ∈ workshop.accesses

/-- No two slots are for the same type of capability. -/
def Distinct (slots : List CapabilitySlot) : Prop :=
  slots.Pairwise fun a b => a.introduction.capabilityType ≠ b.introduction.capabilityType

/-- Slots stay settled when no maker is run for the proxy and none of their capabilities is asked for. -/
theorem Settled.of_eq (h : workshop.Settled place slots) (hruns : later.runsAt place = workshop.runsAt place)
    (haccesses : ∀ slot ∈ slots, (place, slot.introduction.capabilityType) ∈ later.accesses ↔
      (place, slot.introduction.capabilityType) ∈ workshop.accesses) : later.Settled place slots :=
  ⟨hruns ▸ h.runs, fun slot hslot => (h.accessed slot hslot).trans (haccesses slot hslot).symm⟩

/-- The other slots are for other types of capability than a slot among them. -/
theorem Distinct.ne_of_mem {slot other : CapabilitySlot} (h : Distinct (before ++ slot :: after))
    (hother : other ∈ before ∨ other ∈ after) :
    other.introduction.capabilityType ≠ slot.introduction.capabilityType := by
  obtain ⟨-, hafter, hbefore⟩ := List.pairwise_append.mp h
  obtain hmem | hmem := hother
  · exact hbefore other hmem slot List.mem_cons_self
  · exact ((List.pairwise_cons.mp hafter).1 other hmem).symm

/-- Among the runs to which slots owe their instances is the one of a slot among them. -/
theorem filterMap_run? (slot : CapabilitySlot) : (before ++ slot :: after).filterMap CapabilitySlot.run? =
    before.filterMap CapabilitySlot.run? ++ (slot.run?.toList ++ after.filterMap CapabilitySlot.run?) := by
  rw [List.filterMap_append, List.filterMap_cons]
  cases slot.run? <;> rfl

/-- Slots stay settled when one of them is asked for, which runs its maker if it holds no instance. -/
theorem Settled.fill {introduction : Introduction} {instance? : Option Value} {value : Value}
    (h : workshop.Settled place (before ++ ⟨introduction, instance?⟩ :: after))
    (hdistinct : Distinct (before ++ ⟨introduction, instance?⟩ :: after))
    (hruns : later.runsAt place = workshop.runsAt place ++ runs)
    (hrun : (CapabilitySlot.run? ⟨introduction, instance?⟩).toList ++ runs = [⟨introduction, .returned value⟩])
    (haccesses : later.accesses = workshop.accesses ++ [(place, introduction.capabilityType)]) :
    later.Settled place (before ++ ⟨introduction, some value⟩ :: after) := by
  refine ⟨?_, fun slot hslot => ?_⟩
  · have hperm := h.runs.append_right runs
    rw [filterMap_run?, List.append_assoc, List.append_assoc] at hperm
    have hswap : (after.filterMap CapabilitySlot.run? ++ runs).Perm
        (runs ++ after.filterMap CapabilitySlot.run?) := List.perm_append_comm
    have hmoved := hperm.trans ((hswap.append_left _).append_left _)
    rw [← List.append_assoc _ runs, hrun] at hmoved
    rw [hruns, filterMap_run?]
    exact hmoved
  · rw [haccesses, List.mem_append, List.mem_singleton]
    have hothers : slot ∈ before ∨ slot ∈ after →
        (slot.instance?.isSome = true ↔
          (place, slot.introduction.capabilityType) ∈ workshop.accesses ∨
            (place, slot.introduction.capabilityType) = (place, introduction.capabilityType)) := by
      intro hmem
      rw [or_iff_left fun heq => hdistinct.ne_of_mem hmem (Prod.mk.inj heq).2]
      exact h.accessed slot (List.mem_append.mpr (hmem.imp_right (List.mem_cons_of_mem _)))
    obtain hmem | hmem := List.mem_append.mp hslot
    · exact hothers (.inl hmem)
    · obtain rfl | hmem := List.mem_cons.mp hmem
      · exact ⟨fun _ => .inr rfl, fun _ => rfl⟩
      · exact hothers (.inr hmem)

/-- All makers that were run returned. -/
def MakersReturn (workshop : Workshop) : Prop :=
  ∀ making ∈ workshop.makings, ∃ value, making.run.outcome = .returned value

/-- If all makers returned, then those that were run before did. -/
theorem MakersReturn.of_leads (h : later.MakersReturn) (hleads : workshop.Leads later) :
    workshop.MakersReturn := fun making hmem => h making (hleads.makings.subset hmem)

/-- Every proxy has the capabilities that its manager has published for its type. Only proxies that were made
are asked for capabilities, and if all makers return, their slots are settled. -/
structure IsFurnished (workshop : Workshop) : Prop where
  /-- Proxies have the capabilities that their managers have published. -/
  published : ∀ owner ∈ workshop.made, ∃ registry, workshop.Publishes owner.source registry ∧
    owner.proxy.capabilities.map CapabilitySlot.introduction =
      registry.introductionsFor owner.proxy.targetType
  /-- Makers are run for proxies that were made. -/
  makings : ∀ making ∈ workshop.makings, making.place < workshop.made.length
  /-- Proxies that were made are asked for capabilities. -/
  accesses : ∀ access ∈ workshop.accesses, access.1 < workshop.made.length
  /-- Slots are settled if all makers return. -/
  settled : workshop.MakersReturn → ∀ {place : Nat} {owner : MadeProxy},
    workshop.made[place]? = some owner → workshop.Settled place owner.proxy.capabilities

/-- Published introductions are not in conflict. -/
theorem Publishes.isConsistent {source : Nat} {registry : IntroductionRegistry}
    (h : workshop.Publishes source registry) (horderly : workshop.IsOrderly) : registry.IsConsistent := by
  obtain ⟨factory, hfactory, rfl⟩ := h
  exact (horderly _ (List.mem_of_getElem? hfactory)).consistent

/-- No two slots of a proxy are for the same type of capability. -/
theorem IsFurnished.distinct (h : workshop.IsFurnished) (horderly : workshop.IsOrderly)
    (howner : owner ∈ workshop.made) : Distinct owner.proxy.capabilities := by
  obtain ⟨registry, hpublishes, hcapabilities⟩ := h.published owner howner
  have hpairwise := (hpublishes.isConsistent horderly).introductionsFor owner.proxy.targetType
  rw [← hcapabilities] at hpairwise
  exact (List.pairwise_map.mp hpairwise).imp fun hdiffer hsame => hdiffer (.inr hsame)

/-- A workshop in which nothing has been done is furnished. -/
theorem isFurnished_initial (world : World) : (initial world).IsFurnished :=
  ⟨fun _ h => absurd h List.not_mem_nil, fun _ h => absurd h List.not_mem_nil,
    fun _ h => absurd h List.not_mem_nil, fun _ _ _ h => absurd h nofun⟩

/-- A workshop stays furnished when its proxies and its records stay as they are. -/
theorem IsFurnished.of_eq (h : workshop.IsFurnished) (hleads : workshop.Leads later)
    (hmade : later.made = workshop.made) (hmakings : later.makings = workshop.makings)
    (haccesses : later.accesses = workshop.accesses) : later.IsFurnished := by
  refine ⟨fun owner howner => ?_, ?_, ?_, fun hreturn place owner howner => ?_⟩
  · obtain ⟨registry, hpublishes, hcapabilities⟩ := h.published owner (hmade ▸ howner)
    exact ⟨registry, hleads.published hpublishes, hcapabilities⟩
  · rw [hmade, hmakings]
    exact h.makings
  · rw [hmade, haccesses]
    exact h.accesses
  · have hsettled := h.settled (hreturn.of_leads hleads) (hmade ▸ howner)
    exact hsettled.of_eq (by rw [runsAt, runsAt, hmakings]) fun _ _ => by rw [haccesses]

/-- A new proxy has the published capabilities and no instances of them. -/
theorem IsFurnished.create (h : workshop.IsFurnished) (hleads : workshop.Leads later) {made : MadeProxy}
    (hmade : later.made = workshop.made ++ [made]) (hmakings : later.makings = workshop.makings)
    (haccesses : later.accesses = workshop.accesses) {factory : ProxyFactory} {id : Nat} {targetType : String}
    {interfaces : List InterfaceDescriptor} (hpublishes : later.Publishes made.source factory.introductions)
    (hproxy : factory.Made id targetType interfaces made.proxy) : later.IsFurnished := by
  have hgrows : workshop.made.length < later.made.length := by
    rw [hmade, List.length_append]
    exact Nat.lt_succ_self _
  refine ⟨fun owner howner => ?_, fun making hmem => ?_, fun access hmem => ?_,
    fun hreturn place owner howner => ?_⟩
  · rw [hmade] at howner
    obtain howner | howner := List.mem_append.mp howner
    · obtain ⟨registry, hpublished, hcapabilities⟩ := h.published owner howner
      exact ⟨registry, hleads.published hpublished, hcapabilities⟩
    · cases List.mem_singleton.mp howner
      refine ⟨factory.introductions, hpublishes, ?_⟩
      rw [hproxy.capabilities, List.map_map, hproxy.targetType_eq]
      exact List.map_id _
  · exact Nat.lt_trans (h.makings making (hmakings ▸ hmem)) hgrows
  · exact Nat.lt_trans (h.accesses access (haccesses ▸ hmem)) hgrows
  · have hruns : later.runsAt place = workshop.runsAt place := by rw [runsAt, runsAt, hmakings]
    obtain hlt | hge := Nat.lt_or_ge place workshop.made.length
    · rw [hmade, List.getElem?_append_left hlt] at howner
      exact (h.settled (hreturn.of_leads hleads) howner).of_eq hruns fun _ _ => by rw [haccesses]
    · have hnew : owner = made := by
        rw [hmade, List.getElem?_append_right hge] at howner
        exact List.mem_singleton.mp (List.mem_of_getElem? howner)
      have hempty : ∀ slot ∈ owner.proxy.capabilities, slot.instance? = none := by
        intro slot hslot
        rw [hnew, hproxy.capabilities] at hslot
        obtain ⟨introduction, -, rfl⟩ := List.mem_map.mp hslot
        rfl
      refine ⟨?_, fun slot hslot => ?_⟩
      · have hnoruns : workshop.runsAt place = [] := by
          rw [runsAt, List.map_eq_nil_iff, List.filter_eq_nil_iff]
          intro making hmem
          have hplace := Nat.ne_of_lt (Nat.lt_of_lt_of_le (h.makings making hmem) hge)
          exact fun hsame => hplace (of_decide_eq_true hsame)
        have hnone : owner.proxy.capabilities.filterMap CapabilitySlot.run? = [] := by
          refine List.filterMap_eq_nil_iff.mpr fun slot hslot => ?_
          rw [CapabilitySlot.run?, hempty slot hslot]
          rfl
        rw [hruns, hnoruns, hnone]
      · rw [hempty slot hslot, haccesses]
        refine ⟨nofun, fun hmem => ?_⟩
        exact absurd (h.accesses _ hmem) (Nat.not_lt.mpr hge)

/-- The runs of makers in an access are for the proxy that was asked. -/
theorem runsAt_append (h : later.makings = workshop.makings ++ runs.map (Making.mk place)) (other : Nat) :
    later.runsAt other = workshop.runsAt other ++ if place = other then runs else [] := by
  rw [runsAt, h, List.filter_append, List.map_append]
  split
  · next hplace =>
    have hall : (runs.map (Making.mk place)).filter (·.place = other) = runs.map (Making.mk place) :=
      List.filter_eq_self.mpr (List.forall_mem_map.mpr fun _ _ => decide_eq_true hplace)
    rw [hall, List.map_map]
    exact congrArg (workshop.runsAt other ++ ·) (List.map_id runs)
  · next hplace =>
    have hnone : (runs.map (Making.mk place)).filter (·.place = other) = [] :=
      List.filter_eq_nil_iff.mpr (List.forall_mem_map.mpr fun _ _ hsame => hplace (of_decide_eq_true hsame))
    rw [hnone]
    rfl

/-- An access leaves the slots of the proxy that is asked settled, if no maker breaks off. -/
theorem Settled.access {proxy : Proxy} (h : workshop.Settled place proxy.capabilities)
    (hdistinct : Distinct proxy.capabilities) {dial : Dialler} {capabilityType : String} {world : World}
    {ran : Outcome (Option Value × Proxy) × World} {runs : List MakerRun}
    (haccesses : proxy.Accesses dial capabilityType world ran runs)
    (hreturn : ∀ run ∈ runs, ∃ value, run.outcome = .returned value)
    (hruns : later.runsAt place = workshop.runsAt place ++ runs)
    (haccessed : later.accesses = workshop.accesses ++ [(place, capabilityType)]) :
    later.Settled place (proxy.settle ran.1).capabilities := by
  cases haccesses with
  | missing hmissing =>
    refine h.of_eq (hruns.trans (List.append_nil _)) fun slot hslot => ?_
    rw [haccessed, List.mem_append, List.mem_singleton]
    exact or_iff_left fun heq => hmissing slot hslot (Prod.mk.inj heq).2
  | kept hslots _ htype =>
    subst htype
    rw [Proxy.settle, hslots]
    rw [hslots] at h hdistinct
    exact h.fill hdistinct hruns rfl haccessed
  | made hslots _ htype _ =>
    subst htype
    rw [hslots] at h hdistinct
    exact h.fill hdistinct hruns rfl haccessed
  | brokenOff _ _ hbroken _ =>
    obtain ⟨value, hvalue⟩ := hreturn _ List.mem_cons_self
    exact absurd hvalue (hbroken value)

/-- An access leaves a workshop furnished. -/
theorem IsFurnished.access (h : workshop.IsFurnished) (horderly : workshop.IsOrderly)
    (hleads : workshop.Leads later) (howner : workshop.made[place]? = some owner) {dial : Dialler}
    {capabilityType : String} {world : World} {ran : Outcome (Option Value × Proxy) × World}
    (haccesses : owner.proxy.Accesses dial capabilityType world ran runs)
    (hmade : later.made = workshop.made.set place { owner with proxy := owner.proxy.settle ran.1 })
    (haccessed : later.accesses = workshop.accesses ++ [(place, capabilityType)])
    (hmakings : later.makings = workshop.makings ++ runs.map (Making.mk place)) : later.IsFurnished := by
  obtain ⟨hlt, -⟩ := List.getElem?_eq_some_iff.mp howner
  have hmember := List.mem_of_getElem? howner
  have hlength : later.made.length = workshop.made.length := by rw [hmade, List.length_set]
  refine ⟨fun found hfound => ?_, ?_, ?_, fun hreturn other found hfound => ?_⟩
  · rw [hmade] at hfound
    obtain hfound | rfl := List.mem_or_eq_of_mem_set hfound
    · obtain ⟨registry, hpublishes, hcapabilities⟩ := h.published found hfound
      exact ⟨registry, hleads.published hpublishes, hcapabilities⟩
    · obtain ⟨registry, hpublishes, hcapabilities⟩ := h.published owner hmember
      obtain ⟨capabilities, hsettle⟩ := haccesses.settle_eq
      have hsame := haccesses.introductions_eq
      refine ⟨registry, hleads.published hpublishes, hsame.trans ?_⟩
      rw [hsettle]
      exact hcapabilities
  · rw [hlength, hmakings]
    refine List.forall_mem_append.mpr ⟨h.makings, fun making hmem => ?_⟩
    obtain ⟨_, -, rfl⟩ := List.mem_map.mp hmem
    exact hlt
  · rw [hlength, haccessed]
    exact List.forall_mem_append.mpr ⟨h.accesses, List.forall_mem_singleton.mpr hlt⟩
  · have hbefore := hreturn.of_leads hleads
    have hruns := runsAt_append hmakings other
    rw [hmade] at hfound
    by_cases hplace : place = other
    · subst hplace
      rw [List.getElem?_set_self hlt] at hfound
      cases hfound
      have hreturned : ∀ run ∈ runs, ∃ value, run.outcome = .returned value := fun run hrun =>
        hreturn ⟨place, run⟩ (hmakings ▸ List.mem_append_right _ (List.mem_map.mpr ⟨run, hrun, rfl⟩))
      rw [if_pos rfl] at hruns
      exact (h.settled hbefore howner).access (h.distinct horderly hmember) haccesses hreturned hruns haccessed
    · rw [List.getElem?_set_ne hplace] at hfound
      rw [if_neg hplace, List.append_nil] at hruns
      refine (h.settled hbefore hfound).of_eq hruns fun slot _ => ?_
      rw [haccessed, List.mem_append, List.mem_singleton]
      exact or_iff_left fun heq => hplace (Prod.mk.inj heq).1.symm

/-- Every operation leaves a workshop furnished. -/
theorem IsFurnished.conduct (h : workshop.IsFurnished) (horderly : workshop.IsOrderly) (call : WorkshopCall) :
    (workshop.conduct call).2.IsFurnished := by
  have hleads := horderly.leads_conduct call
  have hconducts := horderly.conducts call
  generalize workshop.conduct call = ran at hconducts hleads
  cases hconducts with
  | absent _ _ => exact h
  | opens _ _ => exact h.of_eq hleads rfl rfl rfl
  | manages _ _ _ _ => exact h.of_eq hleads rfl rfl rfl
  | fails _ _ _ _ => exact h.of_eq hleads rfl rfl rfl
  | creates _ _ hmanager _ hproxy =>
    obtain ⟨hlt, -⟩ := List.getElem?_eq_some_iff.mp hmanager
    exact h.create hleads rfl rfl rfl ⟨_, List.getElem?_set_self hlt, rfl⟩ hproxy
  | calls _ _ => exact h.of_eq hleads rfl rfl rfl
  | accesses howner haccesses => exact h.access horderly hleads howner haccesses rfl rfl rfl

/-- A workshop is always furnished. -/
theorem isFurnished_after (world : World) (history : List WorkshopCall) :
    (Workshop.after world history).IsFurnished :=
  after_keeps (isFurnished_initial world) (fun _ call horderly h => h.conduct horderly call) history

/-- The runs of makers of a type of capability for the proxy at a place. -/
def runsFor (workshop : Workshop) (place : Nat) (capabilityType : String) : List Making :=
  workshop.makings.filter fun making =>
    making.place = place ∧ making.run.introduction.capabilityType = capabilityType

open Classical in
/-- The runs of the maker of an introduction for the proxies of a manager. -/
noncomputable def runsOf (workshop : Workshop) (source : Nat) (introduction : Introduction) : List Making :=
  workshop.makings.filter fun making => making.run.introduction = introduction ∧
    ∃ owner, workshop.made[making.place]? = some owner ∧ owner.source = source

/-- The places of the proxies of a manager that were asked for a capability and have it from an introduction. -/
def placesOf (workshop : Workshop) (source : Nat) (introduction : Introduction) : List Nat :=
  (List.range workshop.made.length).filter fun place => workshop.made[place]?.any fun owner =>
    owner.source = source ∧ introduction.appliesTo owner.proxy.targetType ∧
      (place, introduction.capabilityType) ∈ workshop.accesses

variable {registry : IntroductionRegistry} {targetType : String} {introduction : Introduction}

/-- A run for the proxy at a place is on record as such. -/
theorem mem_runsAt_iff {run : MakerRun} : run ∈ workshop.runsAt place ↔ ⟨place, run⟩ ∈ workshop.makings := by
  rw [runsAt, List.mem_map]
  constructor
  · rintro ⟨making, hfound, rfl⟩
    obtain ⟨hmem, hplace⟩ := List.mem_filter.mp hfound
    rw [← of_decide_eq_true hplace]
    exact hmem
  · exact fun hmem => ⟨⟨place, run⟩, List.mem_filter.mpr ⟨hmem, decide_eq_true rfl⟩, rfl⟩

/-- At most as many makers of a type of capability are run for a proxy as introductions of it apply. -/
theorem Settled.length_runsFor (h : workshop.Settled place slots)
    (hslots : slots.map CapabilitySlot.introduction = registry.introductionsFor targetType)
    (capabilityType : String) :
    (workshop.runsFor place capabilityType).length ≤ (registry.offered targetType capabilityType).length := by
  have hruns : (workshop.runsFor place capabilityType).length =
      (workshop.runsAt place).countP (·.introduction.capabilityType = capabilityType) := by
    rw [runsAt, List.countP_map, List.countP_eq_length_filter, List.filter_filter, runsFor]
    congr 2
    funext making
    simp [Bool.and_comm]
  have hoffered : (registry.offered targetType capabilityType).length =
      slots.countP (·.introduction.capabilityType = capabilityType) := by
    rw [IntroductionRegistry.offered, ← hslots, ← List.countP_eq_length_filter, List.countP_map]
    rfl
  rw [hruns, hoffered, h.runs.countP_eq, List.countP_filterMap]
  refine List.countP_mono_left fun slot _ hmade => ?_
  rw [CapabilitySlot.run?] at hmade
  cases hinstance : slot.instance? with
  | none =>
    rw [hinstance] at hmade
    cases hmade
  | some value =>
    rw [hinstance] at hmade
    exact hmade

/-- A manager has published one registry. -/
theorem Publishes.unique {source : Nat} {other : IntroductionRegistry} (h : workshop.Publishes source registry)
    (h' : workshop.Publishes source other) : registry = other := by
  obtain ⟨factory, hfactory, rfl⟩ := h
  obtain ⟨_, hsame, rfl⟩ := h'
  cases hfactory.symm.trans hsame
  rfl

/-- No maker of a type of capability is run twice for a proxy. -/
theorem IsFurnished.length_runsFor (h : workshop.IsFurnished) (horderly : workshop.IsOrderly)
    (hreturn : workshop.MakersReturn) (place : Nat) (capabilityType : String) :
    (workshop.runsFor place capabilityType).length ≤ 1 := by
  cases howner : workshop.made[place]? with
  | none =>
    have hnone : workshop.runsFor place capabilityType = [] := by
      refine List.filter_eq_nil_iff.mpr fun making hmem hmaking => ?_
      obtain ⟨rfl, -⟩ := of_decide_eq_true hmaking
      exact absurd (h.makings making hmem) (Nat.not_lt.mpr (List.getElem?_eq_none_iff.mp howner))
    rw [hnone]
    exact Nat.zero_le 1
  | some owner =>
    obtain ⟨registry, hpublishes, hslots⟩ := h.published owner (List.mem_of_getElem? howner)
    have hbound := (h.settled hreturn howner).length_runsFor hslots capabilityType
    exact Nat.le_trans hbound ((hpublishes.isConsistent horderly).length_offered _ _)

/-- The ways in which an access ends if all makers return, where introductions are offered for it, and which
runs of makers for the proxy are on record at last. -/
inductive Answers (workshop last : Workshop) (place : Nat) (dial : Dialler) (capabilityType : String)
    (offered : List Introduction) (ran : WorkshopAnswer × Workshop) : Prop where
  /-- No introduction is offered. Nothing is found, and no maker is ever run. -/
  | missing : offered = [] → ran.1 = .accessed (some (.returned none)) → ran.2.world = workshop.world →
    ran.2.makings = workshop.makings → last.runsFor place capabilityType = [] →
    Answers workshop last place dial capabilityType offered ran
  /-- One introduction is offered, and the proxy is asked for the first time. The maker is run in the
  surroundings, which is its only run for the proxy, and what it makes is found. -/
  | first {introduction : Introduction} {value : Value} {later : World} : offered = [introduction] →
    (place, capabilityType) ∉ workshop.accesses →
    introduction.maker.run (Ambient.answer dial) workshop.world = (.returned value, later) →
    ran.1 = .accessed (some (.returned (some value))) → ran.2.world = later →
    ran.2.makings = workshop.makings ++ [⟨place, introduction, .returned value⟩] →
    last.runsFor place capabilityType = [⟨place, introduction, .returned value⟩] →
    Answers workshop last place dial capabilityType offered ran
  /-- One introduction is offered, and the proxy was asked before. What the only run of its maker for the proxy
  made is found, and no maker is run. -/
  | again {introduction : Introduction} {value : Value} : offered = [introduction] →
    (place, capabilityType) ∈ workshop.accesses →
    ran.1 = .accessed (some (.returned (some value))) → ran.2.world = workshop.world →
    ran.2.makings = workshop.makings →
    last.runsFor place capabilityType = [⟨place, introduction, .returned value⟩] →
    Answers workshop last place dial capabilityType offered ran

/-- The only run on record for the proxy at a place is one that is known to be there. -/
theorem runsFor_eq_singleton {last : Workshop} (hlast : last.IsFurnished) (horderly : last.IsOrderly)
    (hreturn : last.MakersReturn) {run : MakerRun} (hrun : ⟨place, run⟩ ∈ last.makings) :
    last.runsFor place run.introduction.capabilityType = [⟨place, run⟩] :=
  eq_singleton_of_mem (List.mem_filter.mpr ⟨hrun, decide_eq_true ⟨rfl, rfl⟩⟩)
    (hlast.length_runsFor horderly hreturn place _)

/-- Every access ends in one of these ways, with the introductions that the published registry offers. -/
theorem IsFurnished.answers (h : workshop.IsFurnished) (horderly : workshop.IsOrderly)
    (howner : workshop.made[place]? = some owner) {dial : Dialler} {capabilityType : String} {last : Workshop}
    (hleads : (workshop.conduct (.access place dial capabilityType)).2.Leads last) (hlast : last.IsFurnished)
    (hordered : last.IsOrderly) (hreturn : last.MakersReturn) :
    ∃ registry, workshop.Publishes owner.source registry ∧
      workshop.Answers last place dial capabilityType
        (registry.offered owner.proxy.targetType capabilityType)
        (workshop.conduct (.access place dial capabilityType)) := by
  obtain ⟨registry, hpublishes, hslots⟩ := h.published owner (List.mem_of_getElem? howner)
  refine ⟨registry, hpublishes, ?_⟩
  have hfirst := (horderly.leads_conduct (.access place dial capabilityType)).trans hleads
  have hsettled := h.settled (hreturn.of_leads hfirst) howner
  -- A slot for the capability is the one for the only introduction that is offered.
  have hoffered : ∀ slot ∈ owner.proxy.capabilities, slot.introduction.capabilityType = capabilityType →
      registry.offered owner.proxy.targetType capabilityType = [slot.introduction] := by
    intro slot hslot htype
    refine eq_singleton_of_mem (List.mem_filter.mpr ⟨?_, decide_eq_true htype⟩)
      ((hpublishes.isConsistent horderly).length_offered _ _)
    rw [← hslots]
    exact List.mem_map_of_mem hslot
  obtain ⟨outcome, world, runs, haccesses, hconduct⟩ := exists_accesses howner dial capabilityType
  rw [hconduct] at hleads ⊢
  cases haccesses with
  | missing hmissing =>
    have hnone : registry.offered owner.proxy.targetType capabilityType = [] := by
      rw [IntroductionRegistry.offered, ← hslots]
      refine List.filter_eq_nil_iff.mpr fun introduction hmem hsame => ?_
      obtain ⟨slot, hslot, rfl⟩ := List.mem_map.mp hmem
      exact hmissing slot hslot (of_decide_eq_true hsame)
    obtain ⟨capabilities, hkeeper⟩ := hfirst.made howner
    obtain ⟨other, hother, hkept⟩ := hlast.published _ (List.mem_of_getElem? hkeeper)
    have hbound := (hlast.settled hreturn hkeeper).length_runsFor hkept capabilityType
    rw [hother.unique (hfirst.published hpublishes), hnone] at hbound
    exact .missing hnone rfl rfl (List.append_nil _) (List.eq_nil_of_length_eq_zero (Nat.le_zero.mp hbound))
  | @kept before after introduction value hfound _ htype =>
    have hslot : ⟨introduction, some value⟩ ∈ owner.proxy.capabilities :=
      hfound ▸ List.mem_append_right _ List.mem_cons_self
    have hrun : ⟨introduction, .returned value⟩ ∈ workshop.runsAt place :=
      hsettled.runs.mem_iff.mpr (List.mem_filterMap.mpr ⟨_, hslot, rfl⟩)
    have honly := runsFor_eq_singleton hlast hordered hreturn
      (hfirst.makings.subset (mem_runsAt_iff.mp hrun))
    subst htype
    exact .again (hoffered _ hslot rfl) ((hsettled.accessed _ hslot).mp rfl) rfl rfl (List.append_nil _) honly
  | @made before after introduction value _ hfound _ htype hmade =>
    have hslot : ⟨introduction, none⟩ ∈ owner.proxy.capabilities :=
      hfound ▸ List.mem_append_right _ List.mem_cons_self
    have honly := runsFor_eq_singleton hlast hordered hreturn
      (hleads.makings.subset (List.mem_append_right _ List.mem_cons_self))
    subst htype
    have hnew : (place, introduction.capabilityType) ∉ workshop.accesses := fun hmem =>
      Bool.false_ne_true ((hsettled.accessed _ hslot).mpr hmem)
    exact .first (hoffered _ hslot rfl) hnew hmade rfl rfl rfl honly
  | brokenOff _ _ hbroken _ =>
    obtain ⟨value, hvalue⟩ :=
      hreturn _ (hleads.makings.subset (List.mem_append_right _ List.mem_cons_self))
    exact absurd hvalue (hbroken value)

variable {source : Nat}

open Classical in
/-- The runs of the maker of an introduction are for the proxies of its manager. -/
theorem mem_runsOf_iff {making : Making} : making ∈ workshop.runsOf source introduction ↔
    making ∈ workshop.makings ∧ making.run.introduction = introduction ∧
      ∃ owner, workshop.made[making.place]? = some owner ∧ owner.source = source := by
  rw [runsOf, List.mem_filter, decide_eq_true_eq]

/-- The proxies that were asked for what an introduction gives them are proxies of its manager. -/
theorem mem_placesOf_iff : place ∈ workshop.placesOf source introduction ↔
    ∃ owner, workshop.made[place]? = some owner ∧ owner.source = source ∧
      introduction.appliesTo owner.proxy.targetType = true ∧
      (place, introduction.capabilityType) ∈ workshop.accesses := by
  rw [placesOf, List.mem_filter, List.mem_range]
  constructor
  · rintro ⟨hlt, hany⟩
    rw [List.getElem?_eq_getElem hlt] at hany ⊢
    exact ⟨_, rfl, of_decide_eq_true hany⟩
  · rintro ⟨owner, howner, hasked⟩
    rw [howner]
    exact ⟨(List.getElem?_eq_some_iff.mp howner).1, decide_eq_true hasked⟩

open Classical in
/-- The maker of an introduction is not run twice for a proxy. -/
theorem IsFurnished.nodup_runsOf (h : workshop.IsFurnished) (horderly : workshop.IsOrderly)
    (hreturn : workshop.MakersReturn) (source : Nat) (introduction : Introduction) :
    ((workshop.runsOf source introduction).map Making.place).Nodup := by
  refine List.nodup_iff_count.mpr fun place => ?_
  have hle : ((workshop.runsOf source introduction).map Making.place).count place ≤
      (workshop.runsFor place introduction.capabilityType).length := by
    rw [List.count, List.countP_map, runsOf, List.countP_filter, runsFor, ← List.countP_eq_length_filter]
    refine List.countP_mono_left fun making _ hmaking => ?_
    obtain ⟨hplace, hof⟩ := Bool.and_eq_true_iff.mp hmaking
    obtain ⟨rfl, -⟩ := of_decide_eq_true hof
    exact decide_eq_true ⟨eq_of_beq hplace, rfl⟩
  exact Nat.le_trans hle (h.length_runsFor horderly hreturn place _)

/-- The maker of a registered introduction is run for the proxies that were asked for what it gives them, and
for no other. -/
theorem IsFurnished.mem_runsOf_iff_mem_placesOf (h : workshop.IsFurnished) (hreturn : workshop.MakersReturn)
    {manager : Manager} (hmanager : workshop.sources[source]? = some manager)
    (hintroduction : introduction ∈ manager.factory.introductions.introductions) :
    place ∈ (workshop.runsOf source introduction).map Making.place ↔
      place ∈ workshop.placesOf source introduction := by
  rw [List.mem_map, mem_placesOf_iff]
  constructor
  · rintro ⟨making, hmaking, rfl⟩
    obtain ⟨hmem, rfl, owner, howner, hsource⟩ := mem_runsOf_iff.mp hmaking
    have hsettled := h.settled hreturn howner
    obtain ⟨slot, hslot, hrun⟩ := List.mem_filterMap.mp (hsettled.runs.mem_iff.mp (mem_runsAt_iff.mpr hmem))
    obtain ⟨value, hvalue, hmade⟩ := Option.map_eq_some_iff.mp hrun
    rw [← hmade]
    obtain ⟨registry, -, hslots⟩ := h.published owner (List.mem_of_getElem? howner)
    have hoffered : slot.introduction ∈ registry.introductionsFor owner.proxy.targetType :=
      hslots ▸ List.mem_map_of_mem hslot
    refine ⟨owner, howner, hsource, (List.mem_filter.mp hoffered).2, (hsettled.accessed slot hslot).mp ?_⟩
    rw [hvalue]
    rfl
  · rintro ⟨owner, howner, rfl, happlies, haccessed⟩
    have hsettled := h.settled hreturn howner
    obtain ⟨_, ⟨factory, hfactory, rfl⟩, hslots⟩ := h.published owner (List.mem_of_getElem? howner)
    cases hmanager.symm.trans hfactory
    have hoffered : introduction ∈ owner.proxy.capabilities.map CapabilitySlot.introduction :=
      hslots ▸ List.mem_filter.mpr ⟨hintroduction, happlies⟩
    obtain ⟨slot, hslot, rfl⟩ := List.mem_map.mp hoffered
    obtain ⟨value, hvalue⟩ := Option.isSome_iff_exists.mp ((hsettled.accessed slot hslot).mpr haccessed)
    have hrun : slot.run? = some ⟨slot.introduction, .returned value⟩ := by
      rw [CapabilitySlot.run?, hvalue]
      rfl
    have hmem := mem_runsAt_iff.mp (hsettled.runs.mem_iff.mpr (List.mem_filterMap.mpr ⟨slot, hslot, hrun⟩))
    exact ⟨_, mem_runsOf_iff.mpr ⟨hmem, rfl, owner, howner, rfl⟩, rfl⟩

/-- An attempt to make a proxy runs no maker and changes the surroundings only in the log. -/
theorem conduct_createProxy (workshop : Workshop) (source : Nat) (targetType : String)
    (interfaces : List InterfaceDescriptor) :
    ∃ records : List LogRecord, (workshop.conduct (.createProxy source targetType interfaces)).2.world =
        records.foldl World.log workshop.world ∧
      (workshop.conduct (.createProxy source targetType interfaces)).2.makings = workshop.makings := by
  change ∃ records : List LogRecord,
    (workshop.make source targetType interfaces).2.world = records.foldl World.log workshop.world ∧
      (workshop.make source targetType interfaces).2.makings = workshop.makings
  unfold make
  cases workshop.sources[source]? with
  | none => exact ⟨[], rfl, rfl⟩
  | some manager => exact ⟨_, rfl, rfl⟩

end Workshop

/-- Introductions are registered, proxies are made, methods are called and capabilities are asked for in any
order, where all makers that are run return. An access finds something exactly if the published registry offers
an introduction of the type of capability for the target type of the proxy, and then it offers only one. The
first access on a proxy runs its maker, in the surroundings of the access, and nothing else. It is the only run
on record for the proxy, even at the end, and every access on the proxy finds what it made. Later accesses leave
the surroundings as they are, whatever was done on other proxies. So the maker of a registered introduction was
run as often as there are proxies that were asked for what it gives them. To make a proxy runs no maker and only
writes to the log. -/
theorem Workshop.instances_made_once {world : World} {history : List WorkshopCall}
    (hreturn : (after world history).MakersReturn) :
    (∀ before later place dial capabilityType owner,
      history = before ++ .access place dial capabilityType :: later →
      (after world before).made[place]? = some owner →
      ∃ registry, (after world before).Publishes owner.source registry ∧
        (after world before).Answers (after world history) place dial capabilityType
          (registry.offered owner.proxy.targetType capabilityType)
          ((after world before).conduct (.access place dial capabilityType))) ∧
    (∀ (source : Nat) manager introduction, (after world history).sources[source]? = some manager →
      introduction ∈ manager.factory.introductions.introductions →
      ((after world history).runsOf source introduction).length =
        ((after world history).placesOf source introduction).length) ∧
    ∀ before later source targetType interfaces,
      history = before ++ .createProxy source targetType interfaces :: later →
      ∃ records : List LogRecord,
        ((after world before).conduct (.createProxy source targetType interfaces)).2.world =
          records.foldl World.log (after world before).world ∧
        ((after world before).conduct (.createProxy source targetType interfaces)).2.makings =
          (after world before).makings := by
  have hfurnished := isFurnished_after world history
  have horderly := isOrderly_after world history
  refine ⟨?_, fun source manager introduction hmanager hintroduction => ?_, ?_⟩
  · rintro before later place dial capabilityType owner rfl howner
    have hleads := leads_after world (before ++ [.access place dial capabilityType]) later
    have hstep : after world (before ++ [.access place dial capabilityType]) =
        ((after world before).conduct (.access place dial capabilityType)).2 := after_append world before _
    rw [hstep, List.append_assoc] at hleads
    exact (isFurnished_after world before).answers (isOrderly_after world before) howner hleads hfurnished
      horderly hreturn
  · have hnodup := hfurnished.nodup_runsOf horderly hreturn source introduction
    have hplaces : ((after world history).placesOf source introduction).Nodup := List.nodup_range.filter _
    have hperm := (List.perm_ext_iff_of_nodup hnodup hplaces).mpr fun _ =>
      hfurnished.mem_runsOf_iff_mem_placesOf hreturn hmanager hintroduction
    rw [← hperm.length_eq, List.length_map]
  · rintro before later source targetType interfaces rfl
    exact conduct_createProxy _ source targetType interfaces

/-- Two proxies of a type have the capability of an introduction, whose maker takes a millisecond and gives the
time. The first proxy is asked, then the second one, and then the first one again, which has kept its
instance. -/
theorem Workshop.instances_made_once_audit :
    let maker : AmbientProgram Value := do
      Program.request (Ambient.sleep 1)
      let time ← Program.request Ambient.clock
      pure (.u64 (UInt64.ofNat time))
    let audit : Introduction := ⟨⟨"a..", [.one ⟨"a".toList⟩, .many]⟩, ⟨"Audit", []⟩, "dyn Audit", maker⟩
    let dial : Dialler := fun _ => Run.exhausted
    let opening : List WorkshopCall := [.openManager, .introduce 0 "a.." ⟨"Audit", []⟩ "dyn Audit" maker]
    let before := opening ++ [.createProxy 0 "a.Svc" [], .createProxy 0 "a.Svc" [], .access 0 dial "dyn Audit",
      .access 1 dial "dyn Audit"]
    let history := before ++ [.access 0 dial "dyn Audit"]
    (after .initial history).makings.map (·.run.outcome) = [.returned (.u64 1), .returned (.u64 2)] ∧
      (after .initial before).Answers (after .initial history) 0 dial "dyn Audit" [audit]
        ((after .initial before).conduct (.access 0 dial "dyn Audit")) ∧
      ((after .initial history).runsOf 0 audit).length =
        ((after .initial history).placesOf 0 audit).length := by
  intro maker audit dial opening before history
  let factory : ProxyFactory := ⟨.empty, ⟨[audit]⟩⟩
  let proxy (number : UInt64) : Proxy := ⟨number.toNat, "a.Svc", [], [], [], [⟨audit, none⟩]⟩
  have hfor : factory.introductions.introductionsFor "a.Svc" = [audit] := by
    have happlies : audit.appliesTo "a.Svc" = true := by cbv
    exact List.filter_cons_of_pos happlies
  have hcreate : ∀ number : UInt64, factory.create number.toNat "a.Svc" [] = (.ok (proxy number), factory) := by
    intro number
    have hnamed : Text.isBlankText "a.Svc" = false := rfl
    simp only [ProxyFactory.create, hnamed, hfor]
    rfl
  have hmake : ∀ (manager : Manager) (number : UInt64) (others : List MadeProxy) (world : World),
      manager.Keeps factory → ∃ later : World, later.clock = world.clock ∧
        (conduct ⟨[manager], number, others, world, [], []⟩ (.createProxy 0 "a.Svc" [])).2 =
          ⟨[.serving factory], number + 1, others ++ [⟨0, proxy number⟩], later, [], []⟩ := by
    rintro manager number others world (rfl | rfl)
    · change ∃ later : World, later.clock = world.clock ∧ (make _ 0 "a.Svc" []).2 = _
      simp only [make, List.getElem?_cons_zero, Manager.createProxy, Manager.publish, Manager.collecting, hcreate]
      exact ⟨_, by rfl, rfl⟩
    · change ∃ later : World, later.clock = world.clock ∧ (make _ 0 "a.Svc" []).2 = _
      simp only [make, List.getElem?_cons_zero, Manager.createProxy, Manager.publish, Manager.serving, hcreate]
      exact ⟨_, by rfl, rfl⟩
  obtain ⟨world, hclock, hfirst⟩ := hmake (.collecting factory) 1 []
    (World.initial.log (IntroductionRegistry.registrationRecord audit)) (.inl rfl)
  obtain ⟨world', hclock', hsecond⟩ := hmake (.serving factory) (1 + 1) [⟨0, proxy 1⟩] world (.inr rfl)
  have hopening : after .initial opening = ⟨[.collecting factory], 1, [],
      World.initial.log (IntroductionRegistry.registrationRecord audit), [], []⟩ := rfl
  have hbefore : after .initial before = History.after conduct
      ⟨[.serving factory], 1 + 1 + 1, [⟨0, proxy 1⟩, ⟨0, proxy (1 + 1)⟩], world', [], []⟩
      [.access 0 dial "dyn Audit", .access 1 dial "dyn Audit"] := by
    rw [after_append, hopening, History.after_cons, hfirst, History.after_cons]
    exact congrArg (fun workshop => History.after conduct workshop _) hsecond
  have hhistory : after .initial history = History.after conduct
      ⟨[.serving factory], 1 + 1 + 1, [⟨0, proxy 1⟩, ⟨0, proxy (1 + 1)⟩], world', [], []⟩
      [.access 0 dial "dyn Audit", .access 1 dial "dyn Audit", .access 0 dial "dyn Audit"] := by
    rw [after_append, hbefore]
    rfl
  have hmakings : (after .initial history).makings.map (·.run.outcome) =
      [.returned (.u64 1), .returned (.u64 2)] := by
    rw [hhistory]
    change [Outcome.returned (Value.u64 (UInt64.ofNat (world'.clock + 1))),
      .returned (.u64 (UInt64.ofNat (world'.clock + 1 + 1)))] = _
    rw [hclock', hclock]
    rfl
  have hreturn : (after .initial history).MakersReturn := by
    intro making hmem
    have houtcome : making.run.outcome ∈ [.returned (.u64 1), .returned (.u64 2)] :=
      hmakings ▸ List.mem_map.mpr ⟨making, hmem, rfl⟩
    obtain houtcome | houtcome := List.mem_pair.mp houtcome
    · exact ⟨_, houtcome⟩
    · exact ⟨_, houtcome⟩
  obtain ⟨hanswers, hcount, -⟩ := instances_made_once hreturn
  have howner : ∃ owner, (after .initial before).made[0]? = some owner ∧ owner.source = 0 ∧
      owner.proxy.targetType = "a.Svc" := by
    rw [hbefore]
    exact ⟨_, rfl, rfl, rfl⟩
  obtain ⟨owner, howner, hsource, htype⟩ := howner
  obtain ⟨registry, hregistry, hanswer⟩ := hanswers before [] 0 dial "dyn Audit" owner rfl howner
  have hpublished : (after .initial before).Publishes 0 factory.introductions := by
    rw [hbefore]
    exact ⟨factory, rfl, rfl⟩
  have hoffered : registry.offered owner.proxy.targetType "dyn Audit" = [audit] := by
    rw [hsource] at hregistry
    rw [hregistry.unique hpublished, htype, IntroductionRegistry.offered, hfor]
    rfl
  have hmanager : (after .initial history).sources[0]? = some (.serving factory) := by
    rw [hhistory]
    rfl
  exact ⟨hmakings, hoffered ▸ hanswer, hcount 0 _ audit hmanager (List.mem_singleton_self audit)⟩

end Interception
