import Interception.Proofs.RegistryContents
import Interception.ProxyFactory

/-!
# Factories that are used again

Making proxies adds nothing to the registries of a factory but resolutions. A registry gives the same
advices whether it resolved a signature before or not, so a factory goes on making the same proxies, and it
holds the same aspects and introductions.
-/

namespace Interception

namespace ProxyFactory

variable {factory later : ProxyFactory}

/-- A later state of a factory that has only resolved signatures since. -/
def Precedes (factory later : ProxyFactory) : Prop :=
  ∃ signatures : List CallSignature, later =
    { factory with
      advices := History.after AdviceRegistry.perform factory.advices (signatures.map .resolve) }

/-- A factory precedes itself. -/
theorem Precedes.refl (factory : ProxyFactory) : factory.Precedes factory := ⟨[], rfl⟩

/-- Signatures may be resolved one after the other. -/
theorem Precedes.trans {last : ProxyFactory} (h : factory.Precedes later) (h' : later.Precedes last) :
    factory.Precedes last := by
  obtain ⟨signatures, rfl⟩ := h
  obtain ⟨signatures', rfl⟩ := h'
  refine ⟨signatures ++ signatures', ?_⟩
  rw [List.map_append, History.after_append]

/-- A sound registry stays sound. -/
theorem Precedes.isSound (h : factory.Precedes later) (hsound : factory.advices.IsSound) :
    later.advices.IsSound := by
  obtain ⟨signatures, rfl⟩ := h
  exact History.after_keeps (fun _ call h => h.perform call) _ hsound

/-- No aspect and no advice is added. -/
theorem Precedes.roster_eq (h : factory.Precedes later) :
    later.advices.roster = factory.advices.roster := by
  obtain ⟨signatures, rfl⟩ := h
  induction signatures generalizing factory with
  | nil => rfl
  | cons signature signatures ih =>
    have hnext := @ih { factory with advices := (factory.advices.resolve signature).2 }
    exact hnext.trans (factory.advices.resolve_roster signature)

/-- No introduction is added. -/
theorem Precedes.introductions_eq (h : factory.Precedes later) :
    later.introductions = factory.introductions := by
  obtain ⟨signatures, rfl⟩ := h
  rfl

/-- Exposing methods resolves signatures. -/
theorem exists_expose (targetType : String) (registry : AdviceRegistry) (table : MethodTable)
    (declared : List (String × MethodSignature)) :
    ∃ signatures : List CallSignature, (expose targetType registry table declared).2 =
      History.after AdviceRegistry.perform registry (signatures.map .resolve) := by
  induction declared generalizing registry table with
  | nil => exact ⟨[], rfl⟩
  | cons first rest ih =>
    obtain ⟨interface, method⟩ := first
    rw [expose]
    split
    · exact ⟨[], rfl⟩
    · obtain ⟨signatures, hrest⟩ := ih (registry.resolve ⟨targetType, interface, method⟩).2 _
      exact ⟨⟨targetType, interface, method⟩ :: signatures, hrest⟩

/-- What is exposed depends on the advices only, not on what was resolved before. -/
theorem expose_eq (targetType : String) {registry registry' : AdviceRegistry} (table : MethodTable)
    (declared : List (String × MethodSignature)) (hsound : registry.IsSound) (hsound' : registry'.IsSound)
    (hadvices : registry'.advices = registry.advices) :
    (expose targetType registry' table declared).1 = (expose targetType registry table declared).1 := by
  induction declared generalizing registry registry' table with
  | nil => rfl
  | cons first rest ih =>
    obtain ⟨interface, method⟩ := first
    rw [expose, expose]
    split
    · rfl
    · have hresolve : (registry'.resolve ⟨targetType, interface, method⟩).1.advices =
          (registry.resolve ⟨targetType, interface, method⟩).1.advices := by
        rw [hsound.resolve_eq, hsound'.resolve_eq, hadvices]
      have hnext : (registry'.resolve ⟨targetType, interface, method⟩).2.advices =
          (registry.resolve ⟨targetType, interface, method⟩).2.advices :=
        (congrArg Roster.advices (registry'.resolve_roster _)).trans
          (hadvices.trans (congrArg Roster.advices (registry.resolve_roster _)).symm)
      simp only [hresolve]
      exact ih _ (hsound.resolve _) (hsound'.resolve _) hnext

/-- Making a proxy resolves signatures. -/
theorem precedes_create (factory : ProxyFactory) (id : Nat) (targetType : String)
    (interfaces : List InterfaceDescriptor) :
    factory.Precedes (factory.create id targetType interfaces).2 := by
  unfold create
  split
  · exact .refl factory
  · have hexpose := exists_expose targetType factory.advices ⟨[], []⟩
      (interfaces.flatMap fun i => i.methods.map fun m => (i.name, m))
    simp only
    generalize expose targetType factory.advices ⟨[], []⟩ _ = ran at hexpose
    obtain ⟨result, advices⟩ := ran
    obtain ⟨signatures, rfl⟩ := hexpose
    cases result with
    | error error => exact ⟨signatures, rfl⟩
    | ok table =>
      simp only
      split
      · exact ⟨signatures, rfl⟩
      · exact ⟨signatures, rfl⟩

/-- A factory makes the same proxies after it resolved signatures. -/
theorem Precedes.create_eq (h : factory.Precedes later) (hsound : factory.advices.IsSound) (id : Nat)
    (targetType : String) (interfaces : List InterfaceDescriptor) :
    (later.create id targetType interfaces).1 = (factory.create id targetType interfaces).1 := by
  have hexpose := expose_eq targetType ⟨[], []⟩
    (interfaces.flatMap fun i => i.methods.map fun m => (i.name, m)) hsound (h.isSound hsound)
    (congrArg Roster.advices h.roster_eq)
  unfold create
  split
  · rfl
  · simp only [h.introductions_eq]
    generalize expose targetType factory.advices ⟨[], []⟩ _ = ran at hexpose ⊢
    generalize expose targetType later.advices ⟨[], []⟩ _ = ran' at hexpose ⊢
    obtain ⟨result, advices⟩ := ran
    obtain ⟨result', advices'⟩ := ran'
    cases hexpose
    cases result with
    | error error => rfl
    | ok table =>
      simp only
      split
      · rfl
      · rfl

/-- A factory holds some aspects and introductions and no others, and its registry of advices is sound. -/
structure Holds (factory : ProxyFactory) (aspects : List Aspect) (introductions : List Introduction) :
    Prop where
  /-- The registry of advices is sound. -/
  sound : factory.advices.IsSound
  /-- The registry of advices holds the aspects. -/
  aspects : factory.advices.roster.Holds aspects
  /-- The registry of introductions holds the introductions. -/
  introductions : factory.introductions.introductions = introductions

namespace Holds

variable {aspects : List Aspect} {introductions : List Introduction}

/-- An empty factory holds nothing. -/
theorem empty : ProxyFactory.empty.Holds [] [] := ⟨.empty, AdviceRegistry.holds_empty, rfl⟩

/-- A factory that takes an aspect holds it after the others. -/
theorem register (h : factory.Holds aspects introductions) {aspect : Aspect}
    (hresult : (factory.advices.register aspect).1 = .ok ()) :
    { factory with advices := (factory.advices.register aspect).2 }.Holds (aspects ++ [aspect])
      introductions := by
  have haspects := h.sound.holds_register h.aspects aspect
  rw [hresult] at haspects
  exact ⟨h.sound.register aspect, haspects, h.introductions⟩

/-- A factory that refuses an aspect holds what it held. -/
theorem register_of_error (h : factory.Holds aspects introductions) {aspect : Aspect} {error : AopError}
    (hresult : (factory.advices.register aspect).1 = .error error) :
    { factory with advices := (factory.advices.register aspect).2 }.Holds aspects introductions := by
  have haspects := h.sound.holds_register h.aspects aspect
  rw [hresult] at haspects
  exact ⟨h.sound.register aspect, haspects, h.introductions⟩

/-- A factory that takes an introduction holds it after the others. -/
theorem introduce (h : factory.Holds aspects introductions) (introduction : Introduction) :
    { factory with introductions := ⟨factory.introductions.introductions ++ [introduction]⟩ }.Holds
      aspects (introductions ++ [introduction]) :=
  ⟨h.sound, h.aspects, congrArg (· ++ [introduction]) h.introductions⟩

/-- A factory that has only resolved signatures since holds what it held. -/
theorem of_precedes (h : factory.Holds aspects introductions) (hlater : factory.Precedes later) :
    later.Holds aspects introductions :=
  ⟨hlater.isSound h.sound, hlater.roster_eq ▸ h.aspects, hlater.introductions_eq ▸ h.introductions⟩

end Holds

end ProxyFactory

end Interception
