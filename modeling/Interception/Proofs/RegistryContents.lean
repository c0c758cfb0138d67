import Interception.Proofs.RegistryHistory

/-!
# What a registry holds

A registry holds the advices of the aspects that it took, one after the other, each aspect's in the order
of their declaration and numbered throughout from zero. An aspect that is refused adds nothing.
-/

namespace Interception

/-- An advice as an aspect declares it. -/
structure Declaration where
  /-- The name of the aspect. -/
  aspect : String
  /-- The place in the aspect. -/
  place : Nat
  /-- The advice. -/
  advice : Advice

/-- The advices of an aspect in the order of their declaration. -/
def Aspect.declarations (aspect : Aspect) : List Declaration :=
  aspect.advices.zipIdx.map fun (advice, place) => ⟨aspect.name, place, advice⟩

/-- An entry of a registry is a declared advice under a sequence number. -/
structure RegisteredAdvice.Records (entry : RegisteredAdvice) (declaration : Declaration)
    (sequence : Nat) : Prop where
  /-- It belongs to the aspect. -/
  aspect_eq : entry.aspect = declaration.aspect
  /-- It has the label of the advice. -/
  label_eq : entry.label =
    AdviceRegistry.labelOf declaration.aspect declaration.place declaration.advice
  /-- Its pointcut is what reading the text gives. -/
  read_eq : Pointcut.read declaration.advice.pointcut = .ok entry.pointcut
  /-- It has the order of the advice, or zero. -/
  order_eq : entry.order = declaration.advice.order.getD 0
  /-- It has the sequence number. -/
  sequence_eq : entry.sequence = sequence
  /-- It does what the advice does. -/
  behavior_eq : entry.behavior = declaration.advice.behavior

/-- A roster holds some aspects and no others. -/
structure Roster.Holds (roster : Roster) (aspects : List Aspect) : Prop where
  /-- The names are those of the aspects. -/
  aspects_eq : roster.aspects = aspects.map Aspect.name
  /-- The advices are those of the aspects, numbered from zero. -/
  records : List.Forall₂ (fun entry (declaration, sequence) => entry.Records declaration sequence)
    roster.advices (aspects.flatMap Aspect.declarations).zipIdx

namespace AdviceRegistry

/-- Texts that were read one after the other were all read. -/
theorem forall₂_read_of_mapM {texts : List String} {pointcuts : List Pointcut}
    (h : texts.mapM Pointcut.read = .ok pointcuts) :
    List.Forall₂ (fun text pointcut => Pointcut.read text = .ok pointcut) texts pointcuts := by
  induction texts generalizing pointcuts with
  | nil =>
    cases h
    exact .nil
  | cons text texts ih =>
    rw [List.mapM_cons] at h
    cases hread : Pointcut.read text with
    | error error =>
      rw [hread] at h
      cases h
    | ok pointcut =>
      cases hrest : texts.mapM Pointcut.read with
      | error error =>
        rw [hread, hrest] at h
        cases h
      | ok rest =>
        rw [hread, hrest] at h
        cases h
        exact .cons hread (ih hrest)

/-- Advices are enlisted as they are declared. -/
theorem records_enlist (aspect : String) (sequence place : Nat) {advices : List Advice}
    {compiled : List CompiledPointcut}
    (h : List.Forall₂ (fun text pointcut => Pointcut.read text = .ok pointcut)
      (advices.map Advice.pointcut) (compiled.map CompiledPointcut.pointcut)) :
    List.Forall₂ (fun entry (declaration, sequence) => entry.Records declaration sequence)
      (enlist aspect sequence place advices compiled)
      (((advices.zipIdx place).map fun (advice, place) => Declaration.mk aspect place advice).zipIdx
        sequence) := by
  induction advices generalizing sequence place compiled with
  | nil => exact .nil
  | cons advice advices ih =>
    cases compiled with
    | nil => cases h
    | cons first compiled =>
      obtain ⟨hread, hrest⟩ := List.forall₂_cons.mp h
      exact .cons ⟨rfl, rfl, hread, rfl, rfl, rfl⟩ (ih (sequence + 1) (place + 1) hrest)

/-- A registry without aspects holds none. -/
theorem holds_empty : AdviceRegistry.empty.roster.Holds [] := ⟨rfl, .nil⟩

/-- A registry that takes an aspect holds it after those that it held, and one that refuses it holds what
it held. -/
theorem IsSound.holds_register {registry : AdviceRegistry} {aspects : List Aspect}
    (hsound : registry.IsSound) (h : registry.roster.Holds aspects) (aspect : Aspect) :
    match (registry.register aspect).1 with
    | .ok () => (registry.register aspect).2.roster.Holds (aspects ++ [aspect])
    | .error _ => (registry.register aspect).2.roster.Holds aspects := by
  have hread := hsound.cache.compileAll_eq_read (aspect.advices.map Advice.pointcut)
  have hregisters := registry.registers aspect
  generalize registry.register aspect = ran at hregisters
  cases hregisters with
  | refused _ => exact h
  | malformed _ _ => exact h
  | accepted _ hcompile =>
    rw [hcompile] at hread
    have hlength : registry.size = (aspects.flatMap Aspect.declarations).length := by
      have hlength := h.records.length_eq
      rwa [List.length_zipIdx] at hlength
    refine ⟨?_, ?_⟩
    · rw [List.map_append, ← h.aspects_eq]
      rfl
    · rw [List.flatMap_append, List.zipIdx_append, ← hlength, Nat.zero_add, List.flatMap_singleton]
      exact List.rel_append h.records
        (records_enlist aspect.name registry.size 0 (forall₂_read_of_mapM hread.symm))

end AdviceRegistry

end Interception
