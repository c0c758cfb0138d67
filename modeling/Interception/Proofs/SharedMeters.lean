import Interception.Proofs.ManagerSetup

/-!
# Metric aspects that share their meters

Metric aspects are made directly, from options that name their type, or with a whole manager, and whatever is
made with them may fail afterwards. A ledger keeps, beside the session in which all this happens, which options
were tried, which aspects were made, and which finished calls were counted through them. The meters agree with
the ledger after every step: the shared registry has one family for each valid stem that was tried and no
others, aspects with one stem have one family, and a counter is what was counted through all of them.

Types of aspects may be added at any time. A type may make any number of metric aspects, as long as it says
which.
-/

namespace Interception

/-- A metric aspect and the kind of registry on which it was made. -/
structure MadeAspect where
  /-- Whether it was made on the shared registry. -/
  isShared : Bool
  /-- The aspect. -/
  aspect : MetricAspect

/-- What was done with meters. -/
structure MeterBook where
  /-- The options that were tried on the shared registry. -/
  tried : List MetricOptions
  /-- The aspects that were made. -/
  made : List MadeAspect
  /-- The finished calls that were counted, each with the aspect through which it was, its method and whether
  it succeeded. -/
  counted : List (MadeAspect × String × Bool)

namespace MeterBook

/-- Nothing was done. -/
def empty : MeterBook := ⟨[], [], []⟩

/-- Metric aspects were made on the shared registry. -/
def make (book : MeterBook) (tried : List MetricOptions) (made : List MetricAspect) : MeterBook :=
  { book with tried := book.tried ++ tried, made := book.made ++ made.map (⟨true, ·⟩) }

/-- The number of finished calls of a method that were counted through some of the aspects. -/
def total (book : MeterBook) (through : MadeAspect → Bool) (method : String) (succeeded : Bool) : Nat :=
  book.counted.countP fun c => through c.1 && c.2 == (method, succeeded)

end MeterBook

/-- Meters agree with what was done with them. -/
structure Meters.Balanced (meters : Meters) (book : MeterBook) : Prop where
  /-- The shared registry is in step. -/
  inStep : meters.InStep
  /-- The shared stems are the valid ones that were tried, in the order in which they first occur. -/
  sharedStems_eq : meters.sharedStems = (validStems book.tried).eraseDups
  /-- From each of the valid options an aspect was made on the shared registry. -/
  options_eq : (book.made.filter MadeAspect.isShared).map (·.aspect.options) =
    book.tried.filter (·.faults.isEmpty)
  /-- The family of an aspect has its stem and is in the registry on which the aspect was made. -/
  entry_eq : ∀ m ∈ book.made, meters.entries[m.aspect.family]? = some (m.aspect.options.stem, m.isShared)
  /-- Calls are counted through aspects that were made. -/
  counted_made : ∀ c ∈ book.counted, c.1 ∈ book.made
  /-- A counter is what was counted through the aspects with its family. -/
  counter_eq : ∀ number method succeeded, meters.counter number method succeeded =
    book.total (·.aspect.family == number) method succeeded

namespace Meters

variable {meters : Meters} {book : MeterBook}

/-- Where nothing was done there are no meters. -/
theorem Balanced.empty : Meters.empty.Balanced .empty :=
  ⟨.empty, rfl, rfl, fun _ hmem => absurd hmem List.not_mem_nil, fun _ hmem => absurd hmem List.not_mem_nil,
    fun _ _ _ => rfl⟩

/-- Making metric aspects on the shared registry keeps the balance. -/
theorem Balanced.makeAll (h : meters.Balanced book) (tried : List MetricOptions) :
    (meters.makeAll tried).2.Balanced (book.make tried (meters.makeAll tried).1) := by
  have hmade := h.inStep.makeAll tried
  have hall : ((meters.makeAll tried).1.map (MadeAspect.mk true)).filter MadeAspect.isShared =
      (meters.makeAll tried).1.map (MadeAspect.mk true) :=
    List.filter_eq_self.mpr fun m hm => by
      obtain ⟨aspect, _, rfl⟩ := List.mem_map.mp hm
      rfl
  refine ⟨hmade.inStep, ?_, ?_, fun m hm => ?_, fun c hc => ?_, fun number method succeeded => ?_⟩
  · have hstems := hmade.sharedStems_eq _ h.sharedStems_eq
    rw [hstems, validStems, validStems, validStems, ← List.map_append, ← List.filter_append]
    rfl
  · have hmap : ((meters.makeAll tried).1.map (MadeAspect.mk true)).map (·.aspect.options) =
        tried.filter (·.faults.isEmpty) := by
      rw [List.map_map, ← hmade.options_eq]
      rfl
    simp only [MeterBook.make, List.filter_append, List.map_append, hall, h.options_eq, hmap]
  · obtain hm | hm := List.mem_append.mp hm
    · exact hmade.extends_later.getElem? (h.entry_eq m hm)
    · obtain ⟨aspect, haspect, rfl⟩ := List.mem_map.mp hm
      exact hmade.entry_eq aspect haspect
  · exact List.mem_append_left _ (h.counted_made c hc)
  · exact (hmade.counter_eq number method succeeded).trans (h.counter_eq number method succeeded)

/-- Making a metric aspect on a private registry keeps the balance. -/
theorem Balanced.makePrivate (h : meters.Balanced book) (options : MetricOptions) :
    (meters.makePrivate options).2.Balanced
      { book with made := book.made ++ (meters.makePrivate options).1.toList.map (⟨false, ·⟩) } := by
  cases hfaults : options.faults with
  | cons fault faults =>
    have hmade : meters.makePrivate options = (none, meters) := by
      simp only [Meters.makePrivate, MetricAspect.check, hfaults]
    rw [hmade]
    simpa using h
  | nil =>
    have hmade : meters.makePrivate options =
        (some ⟨options, meters.families.length⟩, (meters.register options.stem false).2) := by
      simp only [Meters.makePrivate, MetricAspect.check, hfaults]
      rfl
    rw [hmade]
    refine ⟨h.inStep.registerPrivate options.stem, ?_, ?_, fun m hm => ?_, fun c hc => ?_,
      fun number method succeeded => ?_⟩
    · simpa [sharedStems] using h.sharedStems_eq
    · simpa using h.options_eq
    · obtain hm | hm := List.mem_append.mp hm
      · exact (meters.extends_register options.stem false).getElem? (h.entry_eq m hm)
      · cases List.mem_singleton.mp hm
        simp
    · exact List.mem_append_left _ (h.counted_made c hc)
    · exact (counter_register meters options.stem method false succeeded number).trans
        (h.counter_eq number method succeeded)

/-- Counting a finished call through an aspect keeps the balance. -/
theorem Balanced.count (h : meters.Balanced book) {m : MadeAspect} (hm : m ∈ book.made) (method : String)
    (succeeded : Bool) : (meters.count m.aspect.family method succeeded).Balanced
      { book with counted := book.counted ++ [(m, method, succeeded)] } := by
  have hfamily : m.aspect.family < meters.families.length := by
    rw [← length_entries]
    exact (List.getElem?_eq_some_iff.mp (h.entry_eq m hm)).1
  refine ⟨fun stem number => ?_, ?_, h.options_eq, fun m' hm' => ?_, fun c hc => ?_,
    fun number method' succeeded' => ?_⟩
  · rw [shared?_count, entries_count]
    exact h.inStep stem number
  · rw [sharedStems, entries_count]
    exact h.sharedStems_eq
  · rw [entries_count]
    exact h.entry_eq m' hm'
  · obtain hc | hc := List.mem_append.mp hc
    · exact h.counted_made c hc
    · cases List.mem_singleton.mp hc
      exact hm
  · rw [counter_count _ _ _ _ _ _ _ hfamily, h.counter_eq, MeterBook.total, MeterBook.total,
      List.countP_append, List.countP_singleton]
    refine congrArg _ (if_congr ?_ rfl rfl)
    simp only [Prod.mk.injEq, Bool.and_eq_true, beq_iff_eq]
    constructor
    · rintro ⟨rfl, rfl, rfl⟩
      exact ⟨rfl, rfl, rfl⟩
    · rintro ⟨rfl, rfl, rfl⟩
      exact ⟨rfl, rfl, rfl⟩

/-- Aspects on the shared registry have the same family exactly if they have the same stem. -/
theorem Balanced.family_eq_iff (h : meters.Balanced book) {m m' : MadeAspect} (hm : m ∈ book.made)
    (hm' : m' ∈ book.made) (hshared : m.isShared = true) :
    m'.aspect.family = m.aspect.family ↔
      m'.isShared = true ∧ m'.aspect.options.stem = m.aspect.options.stem := by
  have hentry := h.entry_eq m hm
  have hentry' := h.entry_eq m' hm'
  constructor
  · intro hfamily
    rw [hfamily, hentry] at hentry'
    obtain ⟨hstem, hregistry⟩ := Prod.mk.inj (Option.some.inj hentry')
    exact ⟨hregistry.symm.trans hshared, hstem.symm⟩
  · rintro ⟨hshared', hstem⟩
    rw [hshared] at hentry
    rw [hshared', hstem] at hentry'
    have hnumber := (h.inStep _ _).mpr hentry
    have hnumber' := (h.inStep _ _).mpr hentry'
    exact Option.some.inj (hnumber'.symm.trans hnumber)

/-- The counter of an aspect on the shared registry is what was counted through all aspects there with its
stem. -/
theorem Balanced.counter_shared (h : meters.Balanced book) {m : MadeAspect} (hm : m ∈ book.made)
    (hshared : m.isShared = true) (method : String) (succeeded : Bool) :
    meters.counter m.aspect.family method succeeded =
      book.total (fun m' => m'.isShared && m'.aspect.options.stem == m.aspect.options.stem) method
        succeeded := by
  rw [h.counter_eq]
  refine List.countP_congr fun c hc => ?_
  have hfamily := h.family_eq_iff hm (h.counted_made c hc) hshared
  simp only [Bool.and_eq_true, beq_iff_eq, hfamily]

/-- Making a metric aspect on a private registry uses the meters only. -/
theorem createPrivate_eq (options : MetricOptions) (world : World) :
    (MetricAspect.createPrivate options world).1.toOption = (world.meters.makePrivate options).1 ∧
    (MetricAspect.createPrivate options world).2 =
      { world with meters := (world.meters.makePrivate options).2 } := by
  unfold MetricAspect.createPrivate Meters.makePrivate MetricAspect.check
  cases options.faults with
  | cons fault faults => exact ⟨rfl, rfl⟩
  | nil => exact ⟨rfl, rfl⟩

end Meters

/-- An aspect type that says which metric aspects it makes on the shared registry. -/
structure TriedType where
  /-- The type. -/
  type : AspectType
  /-- The options that it tries one after the other. -/
  tries : Document → World → List MetricOptions
  /-- It does to the meters what making these aspects does. -/
  meters_eq : ∀ data world,
    (type.advices data world).2.meters = (world.meters.makeAll (tries data world)).2

namespace TriedType

/-- The type of logging aspects makes no metric aspects. -/
def logging : TriedType :=
  ⟨.logging, fun _ _ => [], fun data world => by rw [AspectType.logging_later]; rfl⟩

/-- The type of aspects that answer with a constant makes no metric aspects. -/
def fixed : TriedType :=
  ⟨.fixed, fun _ _ => [], fun data world => by rw [AspectType.fixed_later]; rfl⟩

/-- The type of aspects that set a constant routing key makes no metric aspects. -/
def routing : TriedType :=
  ⟨.routing, fun _ _ => [], fun data world => by rw [AspectType.routing_later]; rfl⟩

/-- The type of metric aspects makes the one that is asked for. -/
def metric : TriedType :=
  { type := .metric
    tries := fun data _ => (MetricOptions.read? Document.dialect data).toList
    meters_eq := fun data world => by
      obtain ⟨records, hlater⟩ := AspectType.metric_later data world
      rw [hlater] }

/-- The advices of an aspect of the type of metric aspects are those of the metric aspect that is made. -/
theorem metric_advices {data : Document} {world : World} {advices : List Advice}
    (h : (AspectType.metric.advices data world).1 = .ok advices) :
    ∃ aspect, (world.meters.makeAll (metric.tries data world)).1 = [aspect] ∧ advices = aspect.advices := by
  simp only [AspectType.metric] at h
  split at h
  · cases h
  · next tried hread =>
    have hmade := (Meters.createShared_eq tried world).1
    cases hcreate : (MetricAspect.createShared tried world).1 with
    | error error =>
      rw [hcreate] at h
      cases h
    | ok aspect =>
      rw [hcreate] at h hmade
      cases h
      refine ⟨aspect, ?_, rfl⟩
      simp only [metric, hread, Option.toList, Meters.makeAll, ← hmade, Except.toOption, List.append_nil]

/-- Types by name, without what they try. -/
def catalogue (types : List (String × TriedType)) : Catalogue :=
  ⟨types.map fun entry => (entry.1, entry.2.type)⟩

/-- Adds a type under a name, in place of any other of that name. -/
def register (types : List (String × TriedType)) (name : String) (type : TriedType) :
    List (String × TriedType) := (name, type) :: types.filter (·.1 != name)

/-- Adds the types of logging and metric aspects, in place of any others of their names. -/
def withBuiltin (types : List (String × TriedType)) : List (String × TriedType) :=
  register (register types "LoggingAspect" logging) "MetricAspect" metric

/-- The metric aspects that are tried when an aspect is made from options. -/
def attempts (types : List (String × TriedType)) (options : AspectOptions) (world : World) :
    List MetricOptions :=
  match types.lookup options.typeName with
  | none => []
  | some type => type.tries options.data world

/-- The metric aspects that are tried when a manager is made from options: those of every aspect up to the
first that fails. -/
def attemptsAll (types : List (String × TriedType)) (manager : Manager) (world : World) :
    List AspectOptions → List MetricOptions
  | [] => []
  | options :: rest =>
    attempts types options world ++
      match (catalogue types).create options world with
      | (.error _, _) => []
      | (.ok aspect, later) =>
        let reply := manager.register aspect
        match reply.result with
        | .error _ => []
        | .ok () => attemptsAll types reply.state (reply.records.foldl World.log later) rest

/-- Adding a type keeps what is tried apart. -/
theorem catalogue_register (types : List (String × TriedType)) (name : String) (type : TriedType) :
    catalogue (register types name type) = (catalogue types).register name type.type := by
  simp only [catalogue, register, Catalogue.register, List.map_cons, List.filter_map]
  rfl

/-- A type is found under its name. -/
theorem lookup_catalogue (types : List (String × TriedType)) (name : String) :
    (catalogue types).types.lookup name = (types.lookup name).map TriedType.type := by
  induction types with
  | nil => rfl
  | cons first rest ih =>
    obtain ⟨other, type⟩ := first
    have ih : (rest.map fun entry => (entry.1, entry.2.type)).lookup name =
        (rest.lookup name).map TriedType.type := ih
    rw [catalogue, List.map_cons, List.lookup_cons, List.lookup_cons]
    cases name == other with
    | true => rfl
    | false => exact ih

/-- Making an aspect from options does to the meters what making the metric aspects does that are tried. -/
theorem create_meters (types : List (String × TriedType)) (options : AspectOptions) (world : World) :
    ((catalogue types).create options world).2.meters =
      (world.meters.makeAll (attempts types options world)).2 := by
  unfold Catalogue.create attempts
  rw [lookup_catalogue]
  cases types.lookup options.typeName with
  | none => rfl
  | some type =>
    have hmeters := type.meters_eq options.data world
    simp only [Option.map_some]
    cases hadvices : type.type.advices options.data world with
    | mk result later =>
      rw [hadvices] at hmeters
      cases result with
      | error error => exact hmeters
      | ok advices => exact hmeters

/-- Log records are no meters. -/
theorem meters_foldl_log (world : World) (records : List LogRecord) :
    (records.foldl World.log world).meters = world.meters := by
  induction records generalizing world with
  | nil => rfl
  | cons record records ih => exact ih (world.log record)

/-- Making a manager from options does to the meters what making the metric aspects does that are tried. -/
theorem registerAll_meters (types : List (String × TriedType)) (manager : Manager) (world : World)
    (entries : List AspectOptions) :
    (Manager.registerAll (catalogue types) manager world entries).2.meters =
      (world.meters.makeAll (attemptsAll types manager world entries)).2 := by
  induction entries generalizing manager world with
  | nil => rfl
  | cons options rest ih =>
    have hcreate := create_meters types options world
    rw [Manager.registerAll, attemptsAll, (world.meters.makeAll_append _ _).2]
    cases hcreated : (catalogue types).create options world with
    | mk result later =>
      rw [hcreated] at hcreate
      cases result with
      | error error => simpa only [Meters.makeAll] using hcreate
      | ok aspect =>
        simp only
        cases hregister : (manager.register aspect).result with
        | error error =>
          simpa only [Meters.makeAll, meters_foldl_log] using hcreate
        | ok _ =>
          have hrest := ih (manager.register aspect).state
            ((manager.register aspect).records.foldl World.log later)
          rw [meters_foldl_log, hcreate] at hrest
          exact hrest

end TriedType

/-- A session with what was done in it with meters. -/
structure Ledger where
  /-- The session. -/
  session : Session
  /-- The types that the session knows, with what they try. -/
  types : List (String × TriedType)
  /-- What was done with meters. -/
  book : MeterBook

/-- Something that is done with meters. -/
inductive MeterCall where
  /-- A metric aspect is made on the shared registry. -/
  | make (options : MetricOptions)
  /-- A metric aspect is made on a private registry. -/
  | makePrivate (options : MetricOptions)
  /-- An aspect is made from options that name its type. -/
  | create (options : AspectOptions)
  /-- A manager is made from options, and replaces that of the session if it can be made. -/
  | configure (options : ManagerOptions)
  /-- A type is added. -/
  | registerType (name : String) (type : TriedType)
  /-- A finished call is counted through one of the aspects that were made, given by its place. -/
  | count (place : Nat) (method : String) (succeeded : Bool)

namespace Ledger

/-- A session in which nothing has happened. -/
def initial : Ledger :=
  { session := .initial
    types := TriedType.register (TriedType.register (TriedType.withBuiltin []) "FixedAspect" .fixed)
      "OtherAspect" .routing
    book := .empty }

/-- What follows when metric aspects were tried on the shared registry. -/
def tried (ledger : Ledger) (options : List MetricOptions) (world : World) : Ledger :=
  { ledger with
    session := { ledger.session with world }
    book := ledger.book.make options (ledger.session.world.meters.makeAll options).1 }

/-- What follows when a finished call was counted through an aspect. -/
def counted (ledger : Ledger) (m : MadeAspect) (method : String) (succeeded : Bool) : Ledger :=
  let world := ledger.session.world
  { ledger with
    session := { ledger.session with
      world := { world with meters := world.meters.count m.aspect.family method succeeded } }
    book := { ledger.book with counted := ledger.book.counted ++ [(m, method, succeeded)] } }

/-- Does something with meters. -/
def perform (ledger : Ledger) : MeterCall → Ledger
  | .make options =>
    ledger.tried [options] (MetricAspect.createShared options ledger.session.world).2
  | .makePrivate options =>
    let (made, world) := MetricAspect.createPrivate options ledger.session.world
    { ledger with
      session := { ledger.session with world }
      book := { ledger.book with
        made := ledger.book.made ++ made.toOption.toList.map (⟨false, ·⟩) } }
  | .create options =>
    ledger.tried (TriedType.attempts ledger.types options ledger.session.world)
      (ledger.session.catalogue.create options ledger.session.world).2
  | .configure options =>
    let types := TriedType.withBuiltin ledger.types
    let session := (ledger.session.configure options).2
    let attempts := TriedType.attemptsAll types .empty ledger.session.world options.aspects
    { ledger.tried attempts session.world with session, types }
  | .registerType name type =>
    { ledger with
      session := { ledger.session with
        catalogue := ledger.session.catalogue.register name type.type }
      types := TriedType.register ledger.types name type }
  | .count place method succeeded =>
    match ledger.book.made[place]? with
    | none => ledger
    | some m => ledger.counted m method succeeded

/-- The session agrees with its ledger. -/
structure IsKept (ledger : Ledger) : Prop where
  /-- The types are those that the session knows. -/
  catalogue_eq : ledger.session.catalogue = TriedType.catalogue ledger.types
  /-- The meters agree with what was done with them. -/
  balanced : ledger.session.world.meters.Balanced ledger.book

/-- In the beginning there is nothing to disagree about. -/
theorem IsKept.initial : initial.IsKept := ⟨rfl, .empty⟩

/-- The meters after metric aspects were tried agree with the ledger. -/
theorem IsKept.tried {ledger : Ledger} (h : ledger.IsKept) {options : List MetricOptions} {world : World}
    (hmeters : world.meters = (ledger.session.world.meters.makeAll options).2) :
    (ledger.tried options world).session.world.meters.Balanced (ledger.tried options world).book := by
  have hbalanced := h.balanced.makeAll options
  rwa [← hmeters] at hbalanced

/-- A session that is configured has the surroundings and types that making the manager leaves behind. -/
theorem configure_later (session : Session) (options : ManagerOptions) :
    (session.configure options).2.world = (Manager.registerAll session.catalogue.withBuiltin .empty
      session.world options.aspects).2 ∧
    (session.configure options).2.catalogue = session.catalogue.withBuiltin := by
  simp only [Session.configure, Manager.ofOptions]
  split
  · exact ⟨rfl, rfl⟩
  · exact ⟨rfl, rfl⟩

/-- Whatever is done, the session goes on agreeing with its ledger. -/
theorem IsKept.perform {ledger : Ledger} (h : ledger.IsKept) (call : MeterCall) :
    (ledger.perform call).IsKept := by
  cases call with
  | make options =>
    obtain ⟨_, records, hlater⟩ := Meters.createShared_eq options ledger.session.world
    refine ⟨h.catalogue_eq, h.tried ?_⟩
    rw [hlater]
    rfl
  | makePrivate options =>
    obtain ⟨hmade, hlater⟩ := Meters.createPrivate_eq options ledger.session.world
    refine ⟨h.catalogue_eq, ?_⟩
    simp only [Ledger.perform, hmade, hlater]
    exact h.balanced.makePrivate options
  | create options =>
    refine ⟨h.catalogue_eq, h.tried ?_⟩
    rw [h.catalogue_eq]
    exact TriedType.create_meters ledger.types options ledger.session.world
  | configure options =>
    obtain ⟨hworld, hcatalogue⟩ := configure_later ledger.session options
    have hbuiltin : ledger.session.catalogue.withBuiltin =
        TriedType.catalogue (TriedType.withBuiltin ledger.types) := by
      rw [h.catalogue_eq, TriedType.withBuiltin, TriedType.catalogue_register,
        TriedType.catalogue_register]
      rfl
    refine ⟨hcatalogue.trans hbuiltin, h.tried ?_⟩
    have hlater : (ledger.session.configure options).2.world.meters =
        (ledger.session.world.meters.makeAll (TriedType.attemptsAll (TriedType.withBuiltin ledger.types)
          .empty ledger.session.world options.aspects)).2 := by
      rw [hworld, hbuiltin]
      exact TriedType.registerAll_meters _ .empty ledger.session.world options.aspects
    exact hlater
  | registerType name type =>
    refine ⟨?_, h.balanced⟩
    simp only [Ledger.perform, TriedType.catalogue_register, h.catalogue_eq]
  | count place method succeeded =>
    simp only [Ledger.perform]
    cases hplace : ledger.book.made[place]? with
    | none => exact h
    | some m =>
      have hmade : m ∈ ledger.book.made := List.mem_of_getElem? hplace
      exact ⟨h.catalogue_eq, h.balanced.count hmade method succeeded⟩

/-- The session agrees with its ledger in the end. -/
theorem IsKept.foldl {ledger : Ledger} (h : ledger.IsKept) (calls : List MeterCall) :
    (calls.foldl Ledger.perform ledger).IsKept := by
  induction calls generalizing ledger with
  | nil => exact h
  | cons call calls ih => exact ih (h.perform call)

/-- Whatever is done with meters in a session, the shared registry has the two names of each valid stem that
was tried, in the order in which the stems first occur, and no others, and it has no name twice. Options that
are not valid are refused with what is wrong with them, and leave everything as it was. From all valid options
an aspect was made, and the aspects that are handed out, directly or as an aspect of the type of metric
aspects, are those in the ledger. Aspects on the shared registry with one stem have one family, which is in
that registry and has the stem, and each of its counters is the number of finished calls that were counted
through all of them. -/
theorem shared_registry_exact (calls : List MeterCall) :
    let ledger := calls.foldl perform initial
    let meters := ledger.session.world.meters
    let stems := (Meters.validStems ledger.book.tried).eraseDups
    meters.names true =
      stems.flatMap (fun stem => [stem ++ "_calls", stem ++ "_duration_seconds"]) ∧
    (meters.names true).Nodup ∧
    (∀ options world, options.faults ≠ [] → MetricAspect.createShared options world =
      (.error (.configuration (.invalidOptions "MetricAspect" options.faults)), world)) ∧
    (ledger.book.made.filter MadeAspect.isShared).map (·.aspect.options) =
      ledger.book.tried.filter (·.faults.isEmpty) ∧
    (∀ options world, (MetricAspect.createShared options world).1.toOption.toList =
      (world.meters.makeAll [options]).1) ∧
    (∀ data world advices, (AspectType.metric.advices data world).1 = .ok advices →
      ∃ aspect, (world.meters.makeAll (TriedType.metric.tries data world)).1 = [aspect] ∧
        advices = aspect.advices) ∧
    (∀ m ∈ ledger.book.made, m.isShared = true →
      (∀ m' ∈ ledger.book.made, m'.isShared = true →
        m'.aspect.options.stem = m.aspect.options.stem → m'.aspect.family = m.aspect.family) ∧
      ∃ family, meters.families[m.aspect.family]? = some family ∧ family.isShared = true ∧
        family.stem = m.aspect.options.stem ∧
        ∀ method succeeded, family.counter method succeeded =
          (ledger.book.counted.filter fun c => c.1.isShared &&
            c.1.aspect.options.stem == m.aspect.options.stem && c.2 == (method, succeeded)).length) := by
  intro ledger meters stems
  have hkept : ledger.IsKept := IsKept.initial.foldl calls
  have hbalanced : meters.Balanced ledger.book := hkept.balanced
  have hstems : meters.sharedStems = stems := hbalanced.sharedStems_eq
  refine ⟨?_, ?_, fun options world hfaults => ?_, hbalanced.options_eq, fun options world => ?_,
    fun data world advices => TriedType.metric_advices, fun m hm hshared => ⟨?_, ?_⟩⟩
  · rw [meters.names_eq, hstems]
  · exact Meters.names_nodup (hstems ▸ Meters.nodup_eraseDups _)
  · exact Meters.createShared_of_faults hfaults world
  · simp only [Meters.makeAll, (Meters.createShared_eq options world).1, List.append_nil]
  · exact fun m' hm' hshared' hstem => (hbalanced.family_eq_iff hm hm' hshared).mpr ⟨hshared', hstem⟩
  · have hentry := hbalanced.entry_eq m hm
    rw [Meters.entries, List.getElem?_map, Option.map_eq_some_iff] at hentry
    obtain ⟨family, hfamily, hlabel⟩ := hentry
    obtain ⟨hstem, hregistry⟩ := Prod.mk.inj hlabel
    refine ⟨family, hfamily, hregistry.trans hshared, hstem, fun method succeeded => ?_⟩
    have hcounter := hbalanced.counter_shared hm hshared method succeeded
    rw [Meters.counter, hfamily, MeterBook.total, List.countP_eq_length_filter] at hcounter
    exact hcounter

end Ledger

end Interception
