import Interception.Pointcut.Cache
import Mathlib.Data.List.Nodup

/-!
# What caches of pointcuts keep

Every entry of a cache is what reading its text gives, no text has two entries, and the entries are
numbered in the order of their reading, so that a number belongs to one text only. Hence a cache answers
as reading afresh would, and once a text was read its entry stays for good.

Reading several texts adds an entry for every text up to the first that is no pointcut, unless it had one
before.
-/

namespace Interception

/-- The pointcut of a text, read afresh. -/
def Pointcut.read (text : String) : Except AopError Pointcut :=
  (parse text).mapError AopError.ofPointcutFault

/-- Whether a text is a pointcut. -/
def Pointcut.isLegible (text : String) : Bool := (read text).isOk

namespace PointcutCache

/-- The texts that have entries, latest first. -/
def texts (cache : PointcutCache) : List String := cache.entries.map Prod.fst

/-- The texts among the given ones that have no entry, each once, in the order in which they first
occur. -/
def fresh (cache : PointcutCache) (texts : List String) : List String :=
  (texts.filter fun text => !cache.texts.contains text).eraseDups

/-- A later cache still has every entry of an earlier one. -/
def Extends (cache later : PointcutCache) : Prop :=
  ∀ text compiled, cache.find? text = some compiled → later.find? text = some compiled

/-- The entries are what reading their texts gives, each text has one, and they are numbered in the order
of their reading. -/
structure IsSound (cache : PointcutCache) : Prop where
  /-- An entry is what reading its text gives. -/
  read_eq : ∀ entry ∈ cache.entries, Pointcut.read entry.1 = .ok entry.2.pointcut
  /-- No text has two entries. -/
  distinct : cache.texts.Nodup
  /-- The entries are numbered in the order of their reading. -/
  serials : cache.entries.map (·.2.serial) = (List.range cache.size).reverse

/-- The three ways in which a cache compiles a text. -/
inductive Compiles (cache : PointcutCache) (text : String) :
    Except AopError CompiledPointcut × PointcutCache → Prop where
  /-- The text has an entry. -/
  | found {compiled : CompiledPointcut} :
    cache.find? text = some compiled → Compiles cache text (.ok compiled, cache)
  /-- The text has no entry and is no pointcut. -/
  | refused {error : AopError} : cache.find? text = none → Pointcut.read text = .error error →
    Compiles cache text (.error error, cache)
  /-- The text has no entry and is read. -/
  | read {pointcut : Pointcut} : cache.find? text = none → Pointcut.read text = .ok pointcut →
    Compiles cache text
      (.ok ⟨pointcut, cache.size⟩, ⟨(text, ⟨pointcut, cache.size⟩) :: cache.entries⟩)

section

variable {cache : PointcutCache} {text : String} {compiled : CompiledPointcut}

/-- A cache compiles a text in one of the three ways. -/
theorem compiles (cache : PointcutCache) (text : String) : Compiles cache text (cache.compile text) := by
  unfold compile
  cases hfind : cache.find? text with
  | some compiled => exact .found hfind
  | none =>
    cases hparse : Pointcut.parse text with
    | error fault => exact .refused hfind (by rw [Pointcut.read, hparse]; rfl)
    | ok pointcut => exact .read hfind (by rw [Pointcut.read, hparse]; rfl)

/-- What is found is an entry. -/
theorem mem_entries_of_find? (h : cache.find? text = some compiled) :
    (text, compiled) ∈ cache.entries := by
  obtain ⟨later, earlier, hentries, _⟩ := List.lookup_eq_some_iff.mp h
  rw [hentries]
  exact List.mem_append_right _ List.mem_cons_self

/-- A text is not found if it has no entry. -/
theorem find?_eq_none_iff : cache.find? text = none ↔ text ∉ cache.texts := by
  rw [find?, List.lookup_eq_none_iff, texts, List.mem_map, not_exists]
  refine forall_congr' fun entry => ?_
  rw [not_and, bne_iff_ne, ne_comm]

/-- The newest entry is found under its text, and the others are found as before. -/
theorem find?_cons (cache : PointcutCache) (added other : String) (compiled : CompiledPointcut) :
    (PointcutCache.mk ((added, compiled) :: cache.entries)).find? other =
      if other = added then some compiled else cache.find? other := by
  unfold find?
  rw [List.lookup_cons]
  by_cases h : other = added
  · rw [if_pos h, beq_iff_eq.mpr h]
  · rw [if_neg h, beq_eq_false_iff_ne.mpr h]

/-- Nothing is lost from a cache that did not change. -/
theorem Extends.refl (cache : PointcutCache) : cache.Extends cache := fun _ _ h => h

/-- Nothing is lost in two steps if nothing is lost in either. -/
theorem Extends.trans {later last : PointcutCache} (h : cache.Extends later) (h' : later.Extends last) :
    cache.Extends last := fun text compiled hfind => h' text compiled (h text compiled hfind)

/-- Compiling loses no entry. -/
theorem compile_extends (cache : PointcutCache) (text : String) :
    cache.Extends (cache.compile text).2 := by
  have hcompiles := cache.compiles text
  generalize cache.compile text = ran at hcompiles
  cases hcompiles with
  | found _ => exact .refl cache
  | refused _ _ => exact .refl cache
  | read hnone _ =>
    intro other compiled hfind
    rw [find?_cons]
    split
    · next heq => rw [heq, hnone] at hfind; cases hfind
    · exact hfind

/-- A text that was compiled has its entry. -/
theorem find?_compile (h : (cache.compile text).1 = .ok compiled) :
    (cache.compile text).2.find? text = some compiled := by
  have hcompiles := cache.compiles text
  generalize cache.compile text = ran at hcompiles h
  cases hcompiles with
  | found hfind => cases h; exact hfind
  | refused _ _ => cases h
  | read _ _ =>
    cases h
    rw [find?_cons, if_pos rfl]

namespace IsSound

/-- A cache without entries is sound. -/
theorem empty : PointcutCache.empty.IsSound := ⟨by simp [PointcutCache.empty], .nil, rfl⟩

/-- What is found under a text is what reading it gives. -/
theorem read_of_find? (h : cache.IsSound) (hfind : cache.find? text = some compiled) :
    Pointcut.read text = .ok compiled.pointcut :=
  h.read_eq (text, compiled) (mem_entries_of_find? hfind)

/-- Entries with the same number have the same text. -/
theorem text_eq_of_serial_eq {text' : String} {compiled' : CompiledPointcut} (h : cache.IsSound)
    (hfind : cache.find? text = some compiled) (hfind' : cache.find? text' = some compiled')
    (hserial : compiled'.serial = compiled.serial) : text' = text := by
  have hnodup : (cache.entries.map (·.2.serial)).Nodup := by
    rw [h.serials, List.nodup_reverse]
    exact List.nodup_range
  have hentry : (text', compiled') = (text, compiled) :=
    List.inj_on_of_nodup_map hnodup (mem_entries_of_find? hfind') (mem_entries_of_find? hfind) hserial
  exact congrArg Prod.fst hentry

/-- Compiling keeps a cache sound. -/
theorem compile (h : cache.IsSound) (text : String) : (cache.compile text).2.IsSound := by
  have hcompiles := cache.compiles text
  generalize cache.compile text = ran at hcompiles
  cases hcompiles with
  | found _ => exact h
  | refused _ _ => exact h
  | read hnone hread =>
    refine ⟨List.forall_mem_cons.mpr ⟨hread, h.read_eq⟩, ?_, ?_⟩
    · exact List.nodup_cons.mpr ⟨find?_eq_none_iff.mp hnone, h.distinct⟩
    · change cache.size :: cache.entries.map (·.2.serial) = (List.range (cache.size + 1)).reverse
      rw [h.serials, List.range_succ, List.reverse_append]
      rfl

/-- A sound cache compiles a text to what reading it afresh gives. -/
theorem compile_eq_read (h : cache.IsSound) (text : String) :
    (cache.compile text).1.map CompiledPointcut.pointcut = Pointcut.read text := by
  have hcompiles := cache.compiles text
  generalize cache.compile text = ran at hcompiles
  cases hcompiles with
  | found hfind => exact (h.read_of_find? hfind).symm
  | refused _ hread => exact hread.symm
  | read _ hread => exact hread.symm

end IsSound

/-- Compiling several texts goes on after the first if this is a pointcut. -/
theorem compileAll_cons (cache : PointcutCache) (text : String) (texts : List String) :
    (cache.compileAll (text :: texts)).2 =
      match (cache.compile text).1 with
      | .error _ => (cache.compile text).2
      | .ok _ => ((cache.compile text).2.compileAll texts).2 := by
  rw [compileAll]
  generalize cache.compile text = ran
  obtain ⟨result, next⟩ := ran
  cases result with
  | error error => rfl
  | ok compiled =>
    simp only
    generalize next.compileAll texts = ran
    obtain ⟨result, last⟩ := ran
    cases result <;> rfl

/-- What compiling one text keeps, compiling several keeps. -/
theorem compileAll_keeps {invariant : PointcutCache → Prop}
    (h : ∀ cache text, invariant cache → invariant (cache.compile text).2) (texts : List String)
    (hcache : invariant cache) : invariant (cache.compileAll texts).2 := by
  induction texts generalizing cache with
  | nil => exact hcache
  | cons text texts ih =>
    have hnext := h cache text hcache
    rw [compileAll_cons]
    split
    · exact hnext
    · exact ih hnext

/-- Compiling several texts loses no entry. -/
theorem compileAll_extends (cache : PointcutCache) (texts : List String) :
    cache.Extends (cache.compileAll texts).2 :=
  compileAll_keeps (fun later text h => h.trans (compile_extends later text)) texts (.refl cache)

/-- Compiling several texts keeps a cache sound. -/
theorem IsSound.compileAll (h : cache.IsSound) (texts : List String) :
    (cache.compileAll texts).2.IsSound :=
  compileAll_keeps (fun _ text hcache => hcache.compile text) texts h

/-- A sound cache compiles several texts to what reading them afresh gives. -/
theorem IsSound.compileAll_eq_read (h : cache.IsSound) (texts : List String) :
    (cache.compileAll texts).1.map (List.map CompiledPointcut.pointcut) = texts.mapM Pointcut.read := by
  induction texts generalizing cache with
  | nil => rfl
  | cons text texts ih =>
    have hread := h.compile_eq_read text
    have hrest := ih (h.compile text)
    rw [List.mapM_cons, ← hread, ← hrest, PointcutCache.compileAll]
    generalize cache.compile text = ran
    obtain ⟨result, next⟩ := ran
    cases result with
    | error error => rfl
    | ok compiled =>
      simp only
      generalize next.compileAll texts = ran
      obtain ⟨result, last⟩ := ran
      cases result <;> rfl

/-- A text that has an entry is not fresh. -/
theorem fresh_cons_of_mem (h : text ∈ cache.texts) (texts : List String) :
    cache.fresh (text :: texts) = cache.fresh texts := by
  unfold fresh
  rw [List.filter_cons_of_neg (by simpa using h)]

/-- A text without an entry is fresh, and after it those that are fresh once it has one. -/
theorem fresh_cons_of_not_mem (h : text ∉ cache.texts) (compiled : CompiledPointcut)
    (texts : List String) :
    cache.fresh (text :: texts) =
      text :: (PointcutCache.mk ((text, compiled) :: cache.entries)).fresh texts := by
  have hnext : (PointcutCache.mk ((text, compiled) :: cache.entries)).texts = text :: cache.texts := rfl
  unfold fresh
  rw [List.filter_cons_of_pos (by simpa using h), List.eraseDups_cons, List.filter_filter, hnext]
  congr 2
  refine List.filter_congr fun other _ => ?_
  rw [List.contains_cons, Bool.not_or]

/-- Compiling several texts adds entries for the texts up to the first that is no pointcut, as far as they
had none. -/
theorem IsSound.texts_compileAll (h : cache.IsSound) (texts : List String) :
    (cache.compileAll texts).2.texts =
      (cache.fresh (texts.takeWhile Pointcut.isLegible)).reverse ++ cache.texts := by
  induction texts generalizing cache with
  | nil => rfl
  | cons text texts ih =>
    have hsound := h.compile text
    have hcompiles := cache.compiles text
    rw [compileAll_cons]
    generalize cache.compile text = ran at hcompiles hsound
    cases hcompiles with
    | found hfind =>
      have hmem : text ∈ cache.texts := List.mem_map_of_mem (mem_entries_of_find? hfind)
      have hlegible : Pointcut.isLegible text = true := by
        rw [Pointcut.isLegible, h.read_of_find? hfind]
        rfl
      rw [List.takeWhile_cons_of_pos hlegible, fresh_cons_of_mem hmem]
      exact ih h
    | refused _ hread =>
      have hlegible : ¬Pointcut.isLegible text = true := by
        rw [Pointcut.isLegible, hread]
        exact Bool.false_ne_true
      rw [List.takeWhile_cons_of_neg hlegible]
      rfl
    | read hnone hread =>
      have hlegible : Pointcut.isLegible text = true := by
        rw [Pointcut.isLegible, hread]
        rfl
      rw [List.takeWhile_cons_of_pos hlegible,
        fresh_cons_of_not_mem (find?_eq_none_iff.mp hnone) ⟨_, cache.size⟩, List.reverse_cons,
        List.append_assoc]
      exact ih hsound

end

end PointcutCache

end Interception
