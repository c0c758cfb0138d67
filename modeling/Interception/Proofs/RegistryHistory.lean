import Interception.Proofs.CachedPointcuts
import Interception.Proofs.Histories
import Interception.Registry

/-!
# Registries without their caches

A registry keeps the pointcuts that it read and the resolutions that it made. A roster keeps neither: it
reads every pointcut and works out every resolution afresh. Whatever is registered, resolved and compiled
in whatever order, a registry answers as the roster of its aspects does. The invariant is that every
resolution that is kept is what resolving its signature gives with the advices that are registered now.
-/

namespace Interception

/-- An operation on a registry or on its cache of pointcuts. -/
inductive RegistryCall where
  /-- Register an aspect. -/
  | register (aspect : Aspect)
  /-- Resolve a signature. -/
  | resolve (signature : CallSignature)
  /-- Compile the text of a pointcut. -/
  | compile (text : String)

/-- What a registry answers to an operation. -/
inductive RegistryAnswer where
  /-- Whether an aspect was registered. -/
  | registered (result : Except AopError Unit)
  /-- The advices for a signature, as an object. -/
  | resolved (resolution : Resolution)
  /-- The pointcut of a text, as an object. -/
  | compiled (result : Except AopError CompiledPointcut)

/-- What a roster answers to an operation. -/
inductive RosterAnswer where
  /-- Whether an aspect was registered. -/
  | registered (result : Except AopError Unit)
  /-- The advices for a signature. -/
  | resolved (advices : List RegisteredAdvice)
  /-- The pointcut of a text. -/
  | compiled (result : Except AopError Pointcut)

/-- Whether an aspect was refused. -/
def RosterAnswer.isRefusal : RosterAnswer → Bool
  | registered (.error _) => true
  | _ => false

namespace RegistryAnswer

/-- An answer without the identity of its object. -/
def content : RegistryAnswer → RosterAnswer
  | registered result => .registered result
  | resolved resolution => .resolved resolution.advices
  | compiled result => .compiled (result.map CompiledPointcut.pointcut)

/-- Whether an aspect was registered. -/
def isRegistration : RegistryAnswer → Bool
  | registered (.ok ()) => true
  | _ => false

end RegistryAnswer

/-- The registered aspects with their advices, and nothing that was worked out from them. -/
structure Roster where
  /-- The names of the aspects in the order of their registration. -/
  aspects : List String
  /-- The advices by increasing sequence number. -/
  advices : List RegisteredAdvice

namespace Roster

/-- No aspects. -/
def empty : Roster := ⟨[], []⟩

/-- What is wrong with the name of an aspect that is to be registered. -/
def nameFault (roster : Roster) (name : String) : Option Misconfiguration :=
  if Text.isBlankText name then some .blankAspect
  else if roster.aspects.contains name then some (.repeatedAspect name)
  else none

/-- An advice with its pointcut as it is registered, given its place in its aspect and the sequence number
of the first advice of that aspect. -/
def enter (aspect : Aspect) (sequence place : Nat) (declared : Advice × Pointcut) : RegisteredAdvice :=
  { aspect := aspect.name
    label := AdviceRegistry.labelOf aspect.name place declared.1
    pointcut := declared.2
    order := declared.1.order.getD 0
    sequence := sequence + place
    behavior := declared.1.behavior }

/-- Registers an aspect. -/
def register (roster : Roster) (aspect : Aspect) : Except AopError Unit × Roster :=
  match roster.nameFault aspect.name with
  | some fault => (.error (.configuration fault), roster)
  | none =>
    match (aspect.advices.map Advice.pointcut).mapM Pointcut.read with
    | .error error => (.error error, roster)
    | .ok pointcuts =>
      (.ok (),
        { aspects := roster.aspects ++ [aspect.name]
          advices := roster.advices ++
            (aspect.advices.zip pointcuts).mapIdx (enter aspect roster.advices.length) })

/-- Carries out an operation. -/
def perform (roster : Roster) : RegistryCall → RosterAnswer × Roster
  | .register aspect => (.registered (roster.register aspect).1, (roster.register aspect).2)
  | .resolve signature => (.resolved (AdviceRegistry.select roster.advices signature), roster)
  | .compile text => (.compiled (Pointcut.read text), roster)

end Roster

namespace AdviceRegistry

/-- The aspects with their advices. -/
def roster (registry : AdviceRegistry) : Roster := ⟨registry.aspects, registry.advices⟩

/-- Carries out an operation. -/
def perform (registry : AdviceRegistry) : RegistryCall → RegistryAnswer × AdviceRegistry
  | .register aspect => (.registered (registry.register aspect).1, (registry.register aspect).2)
  | .resolve signature => (.resolved (registry.resolve signature).1, (registry.resolve signature).2)
  | .compile text =>
    (.compiled (registry.cache.compile text).1,
      { registry with cache := (registry.cache.compile text).2 })

/-- The cache of pointcuts is sound, and every resolution that is kept is what resolving its signature
gives now, with a number of its own. -/
structure IsSound (registry : AdviceRegistry) : Prop where
  /-- The cache of pointcuts is sound. -/
  cache : registry.cache.IsSound
  /-- A resolution is what resolving its signature gives. -/
  resolved_eq : ∀ entry ∈ registry.resolved, entry.2.advices = select registry.advices entry.1
  /-- No two resolutions have the same number. -/
  distinct : (registry.resolved.map (·.2.serial)).Nodup
  /-- The numbers of the resolutions were given before. -/
  given : ∀ entry ∈ registry.resolved, entry.2.serial < registry.resolutions

/-- The three ways in which a registry takes an aspect. -/
inductive Registers (registry : AdviceRegistry) (aspect : Aspect) :
    Except AopError Unit × AdviceRegistry → Prop where
  /-- The name is refused, and no pointcut is read. -/
  | refused {fault : Misconfiguration} : registry.roster.nameFault aspect.name = some fault →
    Registers registry aspect (.error (.configuration fault), registry)
  /-- A pointcut is malformed. -/
  | malformed {error : AopError} {cache : PointcutCache} :
    registry.roster.nameFault aspect.name = none →
    registry.cache.compileAll (aspect.advices.map Advice.pointcut) = (.error error, cache) →
    Registers registry aspect (.error error, { registry with cache })
  /-- The aspect is registered. -/
  | accepted {compiled : List CompiledPointcut} {cache : PointcutCache} :
    registry.roster.nameFault aspect.name = none →
    registry.cache.compileAll (aspect.advices.map Advice.pointcut) = (.ok compiled, cache) →
    Registers registry aspect (.ok (),
      { cache
        advices := registry.advices ++ enlist aspect.name registry.size 0 aspect.advices compiled
        aspects := registry.aspects ++ [aspect.name]
        resolved := []
        resolutions := registry.resolutions })

/-- The two ways in which a registry resolves a signature. -/
inductive Resolves (registry : AdviceRegistry) (signature : CallSignature) :
    Resolution × AdviceRegistry → Prop where
  /-- The resolution was kept. -/
  | kept {resolution : Resolution} : registry.resolved.lookup signature = some resolution →
    Resolves registry signature (resolution, registry)
  /-- The resolution is worked out. -/
  | made : registry.resolved.lookup signature = none →
    Resolves registry signature
      (⟨select registry.advices signature, registry.resolutions⟩,
        { registry with
          resolved := (signature, ⟨select registry.advices signature, registry.resolutions⟩) ::
            registry.resolved
          resolutions := registry.resolutions + 1 })

section

variable {registry : AdviceRegistry} {aspect : Aspect} {signature : CallSignature}
  {resolution : Resolution}

@[simp] theorem perform_register (registry : AdviceRegistry) (aspect : Aspect) :
    registry.perform (.register aspect) =
      (.registered (registry.register aspect).1, (registry.register aspect).2) := rfl

@[simp] theorem perform_resolve (registry : AdviceRegistry) (signature : CallSignature) :
    registry.perform (.resolve signature) =
      (.resolved (registry.resolve signature).1, (registry.resolve signature).2) := rfl

/-- A registry takes an aspect in one of the three ways. -/
theorem registers (registry : AdviceRegistry) (aspect : Aspect) :
    Registers registry aspect (registry.register aspect) := by
  unfold register
  cases hblank : Text.isBlankText aspect.name with
  | true => exact .refused (by simp [Roster.nameFault, hblank])
  | false =>
    cases hrepeated : registry.hasAspect aspect.name with
    | true =>
      have hcontains : registry.aspects.contains aspect.name = true := hrepeated
      exact .refused (by simp only [Roster.nameFault, hblank, roster, hcontains]; rfl)
    | false =>
      have hcontains : registry.aspects.contains aspect.name = false := hrepeated
      have hname : registry.roster.nameFault aspect.name = none := by
        simp only [Roster.nameFault, hblank, roster, hcontains]
        rfl
      cases hcompile : registry.cache.compileAll (aspect.advices.map Advice.pointcut) with
      | mk result cache =>
        cases result with
        | error error => exact .malformed hname hcompile
        | ok compiled => exact .accepted hname hcompile

/-- A registry resolves a signature in one of the two ways. -/
theorem resolves (registry : AdviceRegistry) (signature : CallSignature) :
    Resolves registry signature (registry.resolve signature) := by
  unfold resolve
  cases hlookup : registry.resolved.lookup signature with
  | some resolution => exact .kept hlookup
  | none => exact .made hlookup

/-- A resolution that is found is kept. -/
theorem mem_resolved_of_lookup (h : registry.resolved.lookup signature = some resolution) :
    (signature, resolution) ∈ registry.resolved := by
  obtain ⟨later, earlier, hentries, _⟩ := List.lookup_eq_some_iff.mp h
  rw [hentries]
  exact List.mem_append_right _ List.mem_cons_self

/-- Advices are enlisted as they are entered in a roster. -/
theorem enlist_eq (aspect : Aspect) (sequence place : Nat) (advices : List Advice)
    (compiled : List CompiledPointcut) :
    enlist aspect.name (sequence + place) place advices compiled =
      (advices.zip (compiled.map CompiledPointcut.pointcut)).mapIdx
        (fun index => Roster.enter aspect sequence (place + index)) := by
  induction advices generalizing place compiled with
  | nil => rfl
  | cons advice advices ih =>
    cases compiled with
    | nil => rfl
    | cons first compiled =>
      rw [enlist, List.map_cons, List.zip_cons_cons, List.mapIdx_cons, Nat.add_assoc, ih]
      have hshift : (fun index => Roster.enter aspect sequence (place + 1 + index)) =
          fun index => Roster.enter aspect sequence (place + (index + 1)) := by
        funext index
        rw [Nat.add_assoc, Nat.add_comm 1 index]
      rw [hshift]
      rfl

/-- A sound registry takes an aspect as its roster does. -/
theorem IsSound.register_eq (h : registry.IsSound) (aspect : Aspect) :
    ((registry.register aspect).1, (registry.register aspect).2.roster) =
      registry.roster.register aspect := by
  have hread := h.cache.compileAll_eq_read (aspect.advices.map Advice.pointcut)
  have hregisters := registry.registers aspect
  unfold Roster.register
  generalize registry.register aspect = ran at hregisters
  cases hregisters with
  | refused hname => rw [hname]
  | malformed hname hcompile =>
    rw [hcompile] at hread
    rw [hname, ← hread]
    rfl
  | accepted hname hcompile =>
    rw [hcompile] at hread
    have henlist := enlist_eq aspect registry.advices.length 0 aspect.advices
    simp only [Nat.add_zero, Nat.zero_add] at henlist
    rw [hname, ← hread]
    simp only [Except.map, roster, size, henlist]

/-- A sound registry resolves a signature to what resolving it afresh gives. -/
theorem IsSound.resolve_eq (h : registry.IsSound) (signature : CallSignature) :
    (registry.resolve signature).1.advices = select registry.advices signature := by
  have hresolves := registry.resolves signature
  generalize registry.resolve signature = ran at hresolves
  cases hresolves with
  | kept hlookup => exact h.resolved_eq _ (mem_resolved_of_lookup hlookup)
  | made _ => rfl

/-- Resolving changes neither the aspects nor their advices. -/
theorem resolve_roster (registry : AdviceRegistry) (signature : CallSignature) :
    (registry.resolve signature).2.roster = registry.roster := by
  have hresolves := registry.resolves signature
  generalize registry.resolve signature = ran at hresolves
  cases hresolves with
  | kept _ => rfl
  | made _ => rfl

/-- A registry without aspects is sound. -/
theorem IsSound.empty : AdviceRegistry.empty.IsSound :=
  ⟨.empty, by simp [AdviceRegistry.empty], List.nodup_nil, by simp [AdviceRegistry.empty]⟩

/-- A registry with another sound cache is sound. -/
theorem IsSound.withCache (h : registry.IsSound) {cache : PointcutCache} (hcache : cache.IsSound) :
    { registry with cache }.IsSound := ⟨hcache, h.resolved_eq, h.distinct, h.given⟩

/-- Registering keeps a registry sound. -/
theorem IsSound.register (h : registry.IsSound) (aspect : Aspect) :
    (registry.register aspect).2.IsSound := by
  have hcache := h.cache.compileAll (aspect.advices.map Advice.pointcut)
  have hregisters := registry.registers aspect
  generalize registry.register aspect = ran at hregisters
  cases hregisters with
  | refused _ => exact h
  | malformed _ hcompile =>
    rw [hcompile] at hcache
    exact h.withCache hcache
  | accepted _ hcompile =>
    rw [hcompile] at hcache
    exact ⟨hcache, by simp, List.nodup_nil, by simp⟩

/-- Resolving keeps a registry sound. -/
theorem IsSound.resolve (h : registry.IsSound) (signature : CallSignature) :
    (registry.resolve signature).2.IsSound := by
  have hresolves := registry.resolves signature
  generalize registry.resolve signature = ran at hresolves
  cases hresolves with
  | kept _ => exact h
  | made _ =>
    refine ⟨h.cache, List.forall_mem_cons.mpr ⟨rfl, h.resolved_eq⟩, List.nodup_cons.mpr ⟨?_, h.distinct⟩,
      List.forall_mem_cons.mpr ⟨Nat.lt_succ_self _, fun entry hentry => ?_⟩⟩
    · intro hmem
      obtain ⟨entry, hentry, hserial⟩ := List.mem_map.mp hmem
      have hserial : entry.2.serial = registry.resolutions := hserial
      exact Nat.ne_of_lt (h.given entry hentry) hserial
    · exact Nat.lt_succ_of_lt (h.given entry hentry)

/-- Every operation keeps a registry sound. -/
theorem IsSound.perform (h : registry.IsSound) (call : RegistryCall) :
    (registry.perform call).2.IsSound := by
  cases call with
  | register aspect => exact h.register aspect
  | resolve signature => exact h.resolve signature
  | compile text => exact h.withCache (h.cache.compile text)

/-- A registry refines its roster. -/
theorem refines_roster : History.Refines perform Roster.perform IsSound roster RegistryAnswer.content where
  keeps _ call h := h.perform call
  answer registry call h := by
    cases call with
    | register aspect => exact congrArg (RosterAnswer.registered ·.1) (h.register_eq aspect)
    | resolve signature => exact congrArg RosterAnswer.resolved (h.resolve_eq signature)
    | compile text => exact congrArg RosterAnswer.compiled (h.cache.compile_eq_read text)
  state registry call h := by
    cases call with
    | register aspect => exact congrArg Prod.snd (h.register_eq aspect)
    | resolve signature => exact registry.resolve_roster signature
    | compile text => rfl

end

end AdviceRegistry

end Interception
