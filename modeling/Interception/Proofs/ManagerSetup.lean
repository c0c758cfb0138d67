import Interception.Proofs.MeterFamilies
import Interception.Proofs.Publication
import Interception.Session

/-!
# Managers made from options

The manager of a session is replaced by one made from options if all aspects can be made and registered, and
otherwise it stays. The aspects are taken in their order. An aspect is made if its type is known and takes its
options, and it is registered if its name is neither blank nor taken by an aspect before it and all its
pointcuts can be read. The first aspect of which this is not true decides the error, and none after it is
looked at.

The types of logging and metric aspects are known afterwards in any case. What else remains are families of
meters, since a metric aspect is made before it is registered, and log records.
-/

namespace Interception

/-- Pointcuts that can all be read are read. -/
theorem mapM_read_of_legible {texts : List String}
    (h : ∀ text ∈ texts, Pointcut.isLegible text = true) :
    ∃ pointcuts, texts.mapM Pointcut.read = .ok pointcuts := by
  induction texts with
  | nil => exact ⟨[], rfl⟩
  | cons text texts ih =>
    obtain ⟨hfirst, hothers⟩ := List.forall_mem_cons.mp h
    obtain ⟨pointcuts, hrest⟩ := ih hothers
    cases hread : Pointcut.read text with
    | error error =>
      rw [Pointcut.isLegible, hread] at hfirst
      cases hfirst
    | ok pointcut =>
      refine ⟨pointcut :: pointcuts, ?_⟩
      rw [List.mapM_cons, hread, hrest]
      rfl

/-- The first pointcut that cannot be read decides the error. -/
theorem mapM_read_of_malformed {before after : List String} {text : String} {error : AopError}
    (hbefore : ∀ text ∈ before, Pointcut.isLegible text = true)
    (hread : Pointcut.read text = .error error) :
    (before ++ text :: after).mapM Pointcut.read = .error error := by
  obtain ⟨pointcuts, hpointcuts⟩ := mapM_read_of_legible hbefore
  rw [List.mapM_append, hpointcuts, List.mapM_cons, hread]
  rfl

/-- Either all pointcuts can be read, or there is a first that cannot. -/
theorem legible_or_malformed (texts : List String) :
    (∀ text ∈ texts, Pointcut.isLegible text = true) ∨
    ∃ before text after error, texts = before ++ text :: after ∧
      (∀ text ∈ before, Pointcut.isLegible text = true) ∧ Pointcut.read text = .error error := by
  induction texts with
  | nil => exact .inl fun _ hmem => absurd hmem List.not_mem_nil
  | cons text texts ih =>
    cases hread : Pointcut.read text with
    | error error => exact .inr ⟨[], text, texts, error, rfl, by simp, hread⟩
    | ok pointcut =>
      have hlegible : Pointcut.isLegible text = true := by
        rw [Pointcut.isLegible, hread]
        rfl
      obtain hall | ⟨before, other, after, error, rfl, hbefore, hother⟩ := ih
      · exact .inl (List.forall_mem_cons.mpr ⟨hlegible, hall⟩)
      · exact .inr ⟨text :: before, other, after, error, rfl,
          List.forall_mem_cons.mpr ⟨hlegible, hbefore⟩, hother⟩

/-- The four ways in which an aspect is judged that comes after others whose names are taken. -/
inductive Aspect.Judged (taken : List String) (aspect : Aspect) : Except AopError Unit → Prop where
  /-- The name is blank. -/
  | blank : Text.isBlankText aspect.name = true →
    Judged taken aspect (.error (.configuration .blankAspect))
  /-- The name is taken. -/
  | repeated : Text.isBlankText aspect.name = false → aspect.name ∈ taken →
    Judged taken aspect (.error (.configuration (.repeatedAspect aspect.name)))
  /-- A pointcut cannot be read, and those before it can. -/
  | malformed {before after : List String} {text : String} {error : AopError} :
    Text.isBlankText aspect.name = false → aspect.name ∉ taken →
    aspect.advices.map Advice.pointcut = before ++ text :: after →
    (∀ text ∈ before, Pointcut.isLegible text = true) → Pointcut.read text = .error error →
    Judged taken aspect (.error error)
  /-- The name is neither blank nor taken, and all pointcuts can be read. -/
  | accepted : Text.isBlankText aspect.name = false → aspect.name ∉ taken →
    (∀ text ∈ aspect.advices.map Advice.pointcut, Pointcut.isLegible text = true) →
    Judged taken aspect (.ok ())

namespace Aspect

variable {taken : List String} {aspect : Aspect} {result : Except AopError Unit}

/-- Every aspect is judged in one of the four ways. -/
theorem exists_judged (taken : List String) (aspect : Aspect) : ∃ result, Judged taken aspect result := by
  cases hblank : Text.isBlankText aspect.name with
  | true => exact ⟨_, .blank hblank⟩
  | false =>
    by_cases htaken : aspect.name ∈ taken
    · exact ⟨_, .repeated hblank htaken⟩
    · obtain hlegible | ⟨before, text, after, error, htexts, hbefore, hread⟩ :=
        legible_or_malformed (aspect.advices.map Advice.pointcut)
      · exact ⟨_, .accepted hblank htaken hlegible⟩
      · exact ⟨_, .malformed hblank htaken htexts hbefore hread⟩

/-- A roster registers an aspect as it is judged after the names in the roster. -/
theorem Judged.register_eq (h : Judged taken aspect result) {roster : Roster}
    (htaken : roster.aspects = taken) : (roster.register aspect).1 = result := by
  subst htaken
  unfold Roster.register Roster.nameFault
  cases h with
  | blank hblank => rw [if_pos hblank]
  | repeated hblank htaken => simp [hblank, htaken]
  | malformed hblank htaken htexts hbefore hread =>
    simp [hblank, htaken, htexts, mapM_read_of_malformed hbefore hread]
  | accepted hblank htaken hlegible =>
    obtain ⟨pointcuts, hread⟩ := mapM_read_of_legible hlegible
    simp [hblank, htaken, hread]

end Aspect

namespace Catalogue

/-- An aspect is made from options: its type is known and takes the options, and it is called as the options
say or else as the type says. -/
def Makes (catalogue : Catalogue) (world : World) (options : AspectOptions) (aspect : Aspect)
    (later : World) : Prop :=
  ∃ type, catalogue.types.lookup options.typeName = some type ∧
    type.advices options.data world = (.ok aspect.advices, later) ∧
    aspect.name = options.name.getD type.defaultName

/-- Why an aspect is not made from options or not registered after others whose names are taken. -/
inductive Rejects (catalogue : Catalogue) (taken : List String) (world : World)
    (options : AspectOptions) : SetupError → World → Prop where
  /-- The type is not known. -/
  | unknown : catalogue.types.lookup options.typeName = none →
    Rejects catalogue taken world options (.unknownType options.typeName) world
  /-- The type does not take the options. -/
  | refused {type : AspectType} {error : SetupError} {later : World} :
    catalogue.types.lookup options.typeName = some type →
    type.advices options.data world = (.error error, later) →
    Rejects catalogue taken world options error later
  /-- The aspect is made, and its name or a pointcut is refused. -/
  | judged {aspect : Aspect} {error : AopError} {later : World} :
    catalogue.Makes world options aspect later → aspect.Judged taken (.error error) →
    Rejects catalogue taken world options (.aop error) later

/-- Aspects are made from options one after the other, and each is accepted after those before it and after
others whose names are taken. Their registrations are written to the log. -/
inductive Assembles (catalogue : Catalogue) :
    List String → World → List AspectOptions → List Aspect → World → Prop where
  /-- Nothing is asked for. -/
  | nil (taken : List String) (world : World) : Assembles catalogue taken world [] [] world
  /-- The first aspect is made and accepted, and then the others are. -/
  | cons {taken : List String} {world later last : World} {options : AspectOptions} {aspect : Aspect}
    {rest : List AspectOptions} {aspects : List Aspect} :
    catalogue.Makes world options aspect later → aspect.Judged taken (.ok ()) →
    Assembles catalogue (taken ++ [aspect.name])
      (later.log (AdviceRegistry.registrationRecord aspect)) rest aspects last →
    Assembles catalogue taken world (options :: rest) (aspect :: aspects) last

variable {catalogue : Catalogue} {taken : List String} {world later middle last : World}
  {options : AspectOptions} {entries before : List AspectOptions} {aspect : Aspect}
  {aspects held : List Aspect} {error : SetupError} {factory : ProxyFactory}

/-- What is made from options is what the catalogue creates. -/
theorem Makes.create_eq (h : catalogue.Makes world options aspect later) :
    catalogue.create options world = (.ok aspect, later) := by
  obtain ⟨type, hlookup, hadvices, hname⟩ := h
  simp only [create, hlookup, hadvices, ← hname]

/-- An aspect is either made from options and accepted or rejected. -/
theorem makes_or_rejects (catalogue : Catalogue) (taken : List String) (world : World)
    (options : AspectOptions) :
    (∃ aspect later, catalogue.Makes world options aspect later ∧ aspect.Judged taken (.ok ())) ∨
    ∃ error later, catalogue.Rejects taken world options error later := by
  cases hlookup : catalogue.types.lookup options.typeName with
  | none => exact .inr ⟨_, world, .unknown hlookup⟩
  | some type =>
    cases hadvices : type.advices options.data world with
    | mk result later =>
      cases result with
      | error error => exact .inr ⟨error, later, .refused hlookup hadvices⟩
      | ok advices =>
        have hmakes : catalogue.Makes world options ⟨options.name.getD type.defaultName, advices⟩ later :=
          ⟨type, hlookup, hadvices, rfl⟩
        obtain ⟨result, hjudged⟩ :=
          Aspect.exists_judged taken ⟨options.name.getD type.defaultName, advices⟩
        cases result with
        | error error => exact .inr ⟨_, later, .judged hmakes hjudged⟩
        | ok _ => exact .inl ⟨_, later, hmakes, hjudged⟩

/-- Either all aspects are made and accepted, or there is a first that is rejected. -/
theorem assembles_or_rejects (catalogue : Catalogue) (taken : List String) (world : World)
    (entries : List AspectOptions) :
    (∃ aspects last, catalogue.Assembles taken world entries aspects last) ∨
    ∃ before options after aspects middle error last, entries = before ++ options :: after ∧
      catalogue.Assembles taken world before aspects middle ∧
      catalogue.Rejects (taken ++ aspects.map Aspect.name) middle options error last := by
  induction entries generalizing taken world with
  | nil => exact .inl ⟨[], world, .nil taken world⟩
  | cons options rest ih =>
    obtain ⟨aspect, later, hmakes, hjudged⟩ | ⟨error, last, hrejects⟩ :=
      catalogue.makes_or_rejects taken world options
    · obtain ⟨aspects, last, hrest⟩ |
          ⟨before, other, after, aspects, middle, error, last, rfl, hbefore, hrejects⟩ :=
        ih (taken ++ [aspect.name]) (later.log (AdviceRegistry.registrationRecord aspect))
      · exact .inl ⟨aspect :: aspects, last, .cons hmakes hjudged hrest⟩
      · rw [List.append_assoc] at hrejects
        exact .inr ⟨options :: before, other, after, aspect :: aspects, middle, error, last, rfl,
          .cons hmakes hjudged hbefore, hrejects⟩
    · exact .inr ⟨[], options, rest, [], world, error, last, rfl, .nil taken world,
        by simpa using hrejects⟩

/-- Open registries register an aspect as it is judged after those that they hold. -/
theorem register_collecting (hholds : factory.Holds held []) {result : Except AopError Unit}
    (hjudged : aspect.Judged (held.map Aspect.name) result) :
    (factory.advices.register aspect).1 = result := by
  have hregister := hholds.sound.register_eq aspect
  exact (congrArg Prod.fst hregister).trans (hjudged.register_eq hholds.aspects.aspects_eq)

/-- Aspects that are all made and accepted are registered, and then the rest is gone through. -/
theorem Assembles.registerAll (h : catalogue.Assembles taken world before aspects middle)
    (hholds : factory.Holds held []) (htaken : taken = held.map Aspect.name) :
    ∃ factory', factory'.Holds (held ++ aspects) [] ∧ ∀ rest,
      Manager.registerAll catalogue (.collecting factory) world (before ++ rest) =
        Manager.registerAll catalogue (.collecting factory') middle rest := by
  induction h generalizing factory held with
  | nil taken world => exact ⟨factory, by simpa using hholds, fun _ => rfl⟩
  | @cons taken world later last options aspect rest aspects hmakes hjudged _ ih =>
    subst htaken
    have hregister := register_collecting hholds hjudged
    obtain ⟨factory', hholds', hrest⟩ := ih (hholds.register hregister) (by simp)
    refine ⟨factory', by simpa using hholds', fun others => ?_⟩
    rw [← hrest others]
    simp only [List.cons_append, Manager.registerAll, hmakes.create_eq, Manager.register,
      Manager.collecting, hregister]
    rfl

/-- The aspect that is rejected decides the error, and none after it is looked at. -/
theorem Rejects.registerAll (h : catalogue.Rejects taken world options error last)
    (hholds : factory.Holds held []) (htaken : taken = held.map Aspect.name)
    (rest : List AspectOptions) :
    Manager.registerAll catalogue (.collecting factory) world (options :: rest) = (.error error, last) := by
  subst htaken
  cases h with
  | unknown hlookup => simp only [Manager.registerAll, create, hlookup]
  | refused hlookup hadvices => simp only [Manager.registerAll, create, hlookup, hadvices]
  | judged hmakes hjudged =>
    have hregister := register_collecting hholds hjudged
    simp only [Manager.registerAll, hmakes.create_eq, Manager.register, Manager.collecting, hregister]
    rfl

/-- What is found under a name does not depend on entries with other names. -/
theorem lookup_filter_ne (types : List (String × AspectType)) {name other : String} (h : other ≠ name) :
    (types.filter (·.1 != name)).lookup other = types.lookup other := by
  induction types with
  | nil => rfl
  | cons first rest ih =>
    by_cases hfirst : first.1 = name
    · have hother : (other == first.1) = false := beq_eq_false_iff_ne.mpr (hfirst ▸ h)
      rw [List.filter_cons_of_neg (by simpa using hfirst), List.lookup_cons, hother, ih]
    · rw [List.filter_cons_of_pos (by simpa using hfirst), List.lookup_cons, List.lookup_cons, ih]

/-- A type that is registered is found under its name, and the others are found as before. -/
theorem lookup_register (catalogue : Catalogue) (name other : String) (type : AspectType) :
    (catalogue.register name type).types.lookup other =
      if other = name then some type else catalogue.types.lookup other := by
  rw [register, List.lookup_cons]
  by_cases h : other = name
  · rw [if_pos h, beq_iff_eq.mpr h]
  · rw [if_neg h, beq_eq_false_iff_ne.mpr h]
    exact lookup_filter_ne catalogue.types h

/-- The types of metric and logging aspects are found under their names, and the others as before. -/
theorem lookup_withBuiltin (catalogue : Catalogue) (name : String) :
    catalogue.withBuiltin.types.lookup name =
      if name = "MetricAspect" then some .metric
      else if name = "LoggingAspect" then some .logging
      else catalogue.types.lookup name := by
  rw [withBuiltin, lookup_register, lookup_register]

/-- All types but those of logging and metric aspects leave nothing behind but log records. -/
def IsQuiet (catalogue : Catalogue) : Prop :=
  ∀ name type, catalogue.types.lookup name = some type → name ≠ "LoggingAspect" → name ≠ "MetricAspect" →
    ∀ data world, ∃ records, (type.advices data world).2 = { world with records }

end Catalogue

/-- The options of the metric aspect that is asked for, if one is and they can be read. -/
def AspectOptions.metric? (options : AspectOptions) : Option MetricOptions :=
  if options.typeName = "MetricAspect" then MetricOptions.read? Document.dialect options.data else none

/-- Nothing was done to the surroundings but that metric aspects were made on the shared registry, and log
records were written or taken out. -/
def World.Metered (tried : List MetricOptions) (world later : World) : Prop :=
  ∃ records, later = { world with meters := (world.meters.makeAll tried).2, records }

namespace World.Metered

variable {tried tried' : List MetricOptions} {world later last : World}

/-- Nothing was done at all. -/
theorem refl (world : World) : Metered [] world world := ⟨world.records, rfl⟩

/-- Metric aspects may be made in two parts. -/
theorem trans (h : Metered tried world later) (h' : Metered tried' later last) :
    Metered (tried ++ tried') world last := by
  obtain ⟨records, rfl⟩ := h
  obtain ⟨records', rfl⟩ := h'
  refine ⟨records', ?_⟩
  rw [(world.meters.makeAll_append tried tried').2]

/-- Log records may be written. -/
theorem log (h : Metered tried world later) (record : LogRecord) :
    Metered tried world (later.log record) := by
  obtain ⟨records, rfl⟩ := h
  exact ⟨records.push record, rfl⟩

end World.Metered

namespace AspectType

/-- Making logging aspects leaves nothing behind. -/
theorem logging_later (data : Document) (world : World) : (logging.advices data world).2 = world := by
  simp only [logging]
  split
  · rfl
  · rfl

/-- Making aspects that answer with a constant leaves nothing behind. -/
theorem fixed_later (data : Document) (world : World) : (fixed.advices data world).2 = world := by
  simp only [fixed]
  split
  · rfl
  · rfl

/-- Making aspects that set a constant routing key leaves nothing behind. -/
theorem routing_later (data : Document) (world : World) : (routing.advices data world).2 = world := by
  simp only [routing]
  split
  · rfl
  · rfl

/-- What making metric aspects leaves behind is what the shared registry says. -/
theorem metric_later (data : Document) (world : World) :
    World.Metered (MetricOptions.read? Document.dialect data).toList world (metric.advices data world).2 := by
  simp only [metric]
  split
  · next hread =>
    rw [hread]
    exact .refl world
  · next tried hread =>
    obtain ⟨_, records, hlater⟩ := Meters.createShared_eq tried world
    rw [hread]
    exact ⟨records, hlater⟩

end AspectType

namespace Catalogue

variable {catalogue : Catalogue} {taken : List String} {world later middle last : World}
  {options : AspectOptions} {entries : List AspectOptions} {aspect : Aspect} {aspects : List Aspect}
  {error : SetupError}

/-- A type leaves behind what making the metric aspect that is asked for does, if one is. -/
theorem IsQuiet.metered (h : catalogue.IsQuiet) {type : AspectType}
    (hlookup : catalogue.withBuiltin.types.lookup options.typeName = some type) (world : World) :
    World.Metered options.metric?.toList world (type.advices options.data world).2 := by
  rw [lookup_withBuiltin] at hlookup
  unfold AspectOptions.metric?
  by_cases hmetric : options.typeName = "MetricAspect"
  · rw [if_pos hmetric] at hlookup ⊢
    cases hlookup
    exact AspectType.metric_later options.data world
  · rw [if_neg hmetric] at hlookup ⊢
    by_cases hlogging : options.typeName = "LoggingAspect"
    · rw [if_pos hlogging] at hlookup
      cases hlookup
      rw [AspectType.logging_later]
      exact .refl world
    · rw [if_neg hlogging] at hlookup
      exact h _ type hlookup hlogging hmetric options.data world

/-- An aspect that is made leaves behind what its type does. -/
theorem IsQuiet.metered_of_makes (h : catalogue.IsQuiet)
    (hmakes : catalogue.withBuiltin.Makes world options aspect later) :
    World.Metered options.metric?.toList world later := by
  obtain ⟨type, hlookup, hadvices, _⟩ := hmakes
  have hmetered := h.metered hlookup world
  rwa [hadvices] at hmetered

/-- An aspect that is rejected leaves behind what its type does, if its type is known. -/
theorem IsQuiet.metered_of_rejects (h : catalogue.IsQuiet)
    (hrejects : catalogue.withBuiltin.Rejects taken world options error last) :
    World.Metered options.metric?.toList world last := by
  cases hrejects with
  | unknown hlookup =>
    have hmetric : options.typeName ≠ "MetricAspect" := fun hname => by
      rw [lookup_withBuiltin, if_pos hname] at hlookup
      cases hlookup
    rw [AspectOptions.metric?, if_neg hmetric]
    exact .refl world
  | refused hlookup hadvices =>
    have hmetered := h.metered hlookup world
    rwa [hadvices] at hmetered
  | judged hmakes _ => exact h.metered_of_makes hmakes

/-- Aspects that are made and accepted leave behind what their types do. -/
theorem IsQuiet.metered_of_assembles (h : catalogue.IsQuiet)
    (hassembles : catalogue.withBuiltin.Assembles taken world entries aspects last) :
    World.Metered (entries.filterMap AspectOptions.metric?) world last := by
  induction hassembles with
  | nil taken world => exact .refl world
  | @cons _ _ _ _ options _ rest _ hmakes _ _ ih =>
    have htried : (options :: rest).filterMap AspectOptions.metric? =
        options.metric?.toList ++ rest.filterMap AspectOptions.metric? := by
      rw [List.filterMap_cons]
      cases options.metric? <;> rfl
    rw [htried]
    exact ((h.metered_of_makes hmakes).log _).trans ih

end Catalogue

namespace Session

/-- The types that a session knows from the start leave nothing behind but log records, apart from those of
logging and metric aspects. -/
theorem knownTypes_isQuiet : knownTypes.IsQuiet := by
  intro name type hlookup hlogging hmetric data world
  rw [knownTypes, Catalogue.lookup_register, Catalogue.lookup_register, Catalogue.lookup_withBuiltin,
    if_neg hmetric, if_neg hlogging] at hlookup
  by_cases hother : name = "OtherAspect"
  · rw [if_pos hother] at hlookup
    cases hlookup
    exact ⟨world.records, AspectType.routing_later data world⟩
  · rw [if_neg hother] at hlookup
    by_cases hfixed : name = "FixedAspect"
    · rw [if_pos hfixed] at hlookup
      cases hlookup
      exact ⟨world.records, AspectType.fixed_later data world⟩
    · rw [if_neg hfixed] at hlookup
      cases hlookup

variable {session : Session} {options : ManagerOptions} {before after : List AspectOptions}
  {entry : AspectOptions} {aspects : List Aspect} {middle last : World} {error : SetupError}

/-- Where all aspects are made and accepted, a session gets a new manager that holds them. -/
theorem configure_of_assembles
    (h : session.catalogue.withBuiltin.Assembles [] session.world options.aspects aspects last) :
    ∃ factory : ProxyFactory, factory.Holds aspects [] ∧ session.configure options =
      (.ok (), { session with
        manager := .collecting factory, catalogue := session.catalogue.withBuiltin, world := last }) := by
  obtain ⟨factory, hholds, hrest⟩ := h.registerAll ProxyFactory.Holds.empty rfl
  have hall : Manager.registerAll session.catalogue.withBuiltin .empty session.world options.aspects =
      (.ok (.collecting factory), last) := by
    have hall := hrest []
    rwa [List.append_nil] at hall
  refine ⟨factory, hholds, ?_⟩
  simp only [configure, Manager.ofOptions, hall]

/-- Where an aspect is rejected after others that were made and accepted, a session keeps what it had. -/
theorem configure_of_rejects (hoptions : options.aspects = before ++ entry :: after)
    (hbefore : session.catalogue.withBuiltin.Assembles [] session.world before aspects middle)
    (hrejects : session.catalogue.withBuiltin.Rejects (aspects.map Aspect.name) middle entry error last) :
    session.configure options =
      (.error error, { session with catalogue := session.catalogue.withBuiltin, world := last }) := by
  obtain ⟨factory, hholds, hrest⟩ := hbefore.registerAll ProxyFactory.Holds.empty rfl
  have hall : Manager.registerAll session.catalogue.withBuiltin .empty session.world options.aspects =
      (.error error, last) := by
    rw [hoptions]
    exact (hrest (entry :: after)).trans (hrejects.registerAll hholds rfl after)
  simp only [configure, Manager.ofOptions, hall]

/-- A session gets a manager from options exactly if all aspects are made and accepted in their order. The
manager is new and not published, and it holds the aspects in their order and nothing else. Otherwise the
first aspect that is rejected decides the error, and the session keeps its manager, its proxies and whatever
else it had. In either case the types of logging and metric aspects are known afterwards, and the surroundings
are those that the last of the aspects left behind. If all other types leave nothing behind but log records,
the surroundings differ by log records only and by the metric aspects that were made, which are those asked
for up to the aspect that was rejected. -/
theorem configure_all_or_nothing (session : Session) (options : ManagerOptions) :
    let catalogue := session.catalogue.withBuiltin
    let configured := session.configure options
    (configured.1 = .ok () ↔
      ∃ aspects last, catalogue.Assembles [] session.world options.aspects aspects last) ∧
    (∀ aspects last, catalogue.Assembles [] session.world options.aspects aspects last →
      (∃ factory : ProxyFactory, factory.Holds aspects [] ∧
        configured.2 = { session with manager := .collecting factory, catalogue, world := last }) ∧
      configured.2.manager.isPublished = false ∧
      (session.catalogue.IsQuiet →
        World.Metered (options.aspects.filterMap AspectOptions.metric?) session.world last)) ∧
    (∀ error, configured.1 = .error error → ∃ before entry after aspects middle last,
      options.aspects = before ++ entry :: after ∧
      catalogue.Assembles [] session.world before aspects middle ∧
      catalogue.Rejects (aspects.map Aspect.name) middle entry error last ∧
      configured.2 = { session with catalogue, world := last } ∧
      (session.catalogue.IsQuiet →
        World.Metered ((before ++ [entry]).filterMap AspectOptions.metric?) session.world last)) := by
  intro catalogue configured
  refine ⟨⟨fun hok => ?_, fun ⟨aspects, last, h⟩ => ?_⟩, fun aspects last h => ?_, fun error herror => ?_⟩
  · obtain hassembles | ⟨before, entry, after, aspects, middle, error, last, hoptions, hbefore, hrejects⟩ :=
      catalogue.assembles_or_rejects [] session.world options.aspects
    · exact hassembles
    · have hconfigured : configured.1 = .error error :=
        congrArg Prod.fst (configure_of_rejects hoptions hbefore hrejects)
      rw [hok] at hconfigured
      cases hconfigured
  · obtain ⟨_, _, hconfigured⟩ := configure_of_assembles h
    exact congrArg Prod.fst hconfigured
  · obtain ⟨factory, hholds, hconfigured⟩ := configure_of_assembles h
    have hlater : configured.2 = { session with manager := .collecting factory, catalogue, world := last } :=
      congrArg Prod.snd hconfigured
    refine ⟨⟨factory, hholds, hlater⟩, ?_, fun hquiet => hquiet.metered_of_assembles h⟩
    rw [hlater]
    rfl
  · obtain ⟨aspects, last, h⟩ |
        ⟨before, entry, after, aspects, middle, error', last, hoptions, hbefore, hrejects⟩ :=
      catalogue.assembles_or_rejects [] session.world options.aspects
    · obtain ⟨_, _, hconfigured⟩ := configure_of_assembles h
      have hok : configured.1 = .ok () := congrArg Prod.fst hconfigured
      rw [hok] at herror
      cases herror
    · have hconfigured := configure_of_rejects hoptions hbefore hrejects
      have herror' : configured.1 = .error error' := congrArg Prod.fst hconfigured
      rw [herror'] at herror
      cases herror
      refine ⟨before, entry, after, aspects, middle, last, hoptions, hbefore, hrejects,
        congrArg Prod.snd hconfigured, fun hquiet => ?_⟩
      have htried : (before ++ [entry]).filterMap AspectOptions.metric? =
          before.filterMap AspectOptions.metric? ++ entry.metric?.toList := by
        rw [List.filterMap_append, List.filterMap_cons]
        cases entry.metric? <;> rfl
      rw [htried]
      exact (hquiet.metered_of_assembles hbefore).trans (hquiet.metered_of_rejects hrejects)

end Session

end Interception
