import Interception.Error

/-!
# Cached pointcuts

Reading a pointcut is done once per text. A cache keeps what was read under the very text it was
asked for, blank ends included, and numbers its entries in the order of their reading, so that equal
numbers mean the same object. Texts that are no pointcuts are never kept.
-/

namespace Interception

/-- A pointcut as kept by a cache. -/
structure CompiledPointcut where
  /-- The pointcut. -/
  pointcut : Pointcut
  /-- The number of pointcuts that the cache held before. -/
  serial : Nat
  deriving DecidableEq

/-- The pointcuts read so far, each under the text it was read from. -/
structure PointcutCache where
  /-- The entries, latest first. -/
  entries : List (String × CompiledPointcut)

namespace PointcutCache

/-- A cache without entries. -/
def empty : PointcutCache := ⟨[]⟩

/-- The number of entries. -/
def size (cache : PointcutCache) : Nat := cache.entries.length

/-- The entry kept under a text. -/
def find? (cache : PointcutCache) (text : String) : Option CompiledPointcut :=
  cache.entries.lookup text

/-- The pointcut of a text, read now or before. -/
def compile (cache : PointcutCache) (text : String) :
    Except AopError CompiledPointcut × PointcutCache :=
  match cache.find? text with
  | some compiled => (.ok compiled, cache)
  | none =>
    match Pointcut.parse text with
    | .error fault => (.error (AopError.ofPointcutFault fault), cache)
    | .ok pointcut =>
      let compiled := ⟨pointcut, cache.size⟩
      (.ok compiled, ⟨(text, compiled) :: cache.entries⟩)

/-- The pointcuts of several texts in order, up to the first text that is none. The texts before it
stay in the cache. -/
def compileAll (cache : PointcutCache) :
    List String → Except AopError (List CompiledPointcut) × PointcutCache
  | [] => (.ok [], cache)
  | text :: texts =>
    match cache.compile text with
    | (.error error, cache) => (.error error, cache)
    | (.ok compiled, cache) =>
      match cache.compileAll texts with
      | (.error error, cache) => (.error error, cache)
      | (.ok rest, cache) => (.ok (compiled :: rest), cache)

end PointcutCache

end Interception
