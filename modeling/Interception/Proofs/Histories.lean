/-!
# Histories of operations

A history is a list of operations that are carried out on an object one after the other, each on the state
in which the one before left the object. What every operation keeps, a history keeps.

An object may be looked at as a simpler one, on which the same operations are carried out. If every
operation answers alike on both and leads to states that look alike, so does every history. An operation
that leaves the simpler object as it is can be left out of a history without a trace.
-/

namespace Interception.History

variable {σ τ κ ρ ρ' : Type}

/-- The state after a history. -/
def after (perform : σ → κ → ρ × σ) (s : σ) (calls : List κ) : σ :=
  calls.foldl (fun s call => (perform s call).2) s

/-- The answers to the operations of a history, in their order. -/
def answers (perform : σ → κ → ρ × σ) (s : σ) : List κ → List ρ
  | [] => []
  | call :: calls => (perform s call).1 :: answers perform (perform s call).2 calls

/-- The operations of a history whose answers pass. -/
def passing (perform : σ → κ → ρ × σ) (passes : ρ → Bool) (s : σ) : List κ → List κ
  | [] => []
  | call :: calls =>
    let rest := passing perform passes (perform s call).2 calls
    if passes (perform s call).1 then call :: rest else rest

section

variable {perform : σ → κ → ρ × σ} {perform' : τ → κ → ρ' × τ}

@[simp] theorem after_nil (s : σ) : after perform s [] = s := rfl

@[simp] theorem after_cons (s : σ) (call : κ) (calls : List κ) :
    after perform s (call :: calls) = after perform (perform s call).2 calls := rfl

/-- A history that is continued leads on from where it led. -/
theorem after_append (s : σ) (calls calls' : List κ) :
    after perform s (calls ++ calls') = after perform (after perform s calls) calls' :=
  List.foldl_append

/-- What every operation keeps, a history keeps. -/
theorem after_keeps {invariant : σ → Prop}
    (h : ∀ s call, invariant s → invariant (perform s call).2) (calls : List κ) {s : σ}
    (hs : invariant s) : invariant (after perform s calls) := by
  induction calls generalizing s with
  | nil => exact hs
  | cons call calls ih => exact ih (h s call hs)

/-- Operations that leave the object as it is unless their answers pass can be left out. -/
theorem after_passing {passes : ρ → Bool}
    (h : ∀ s call, passes (perform s call).1 = false → (perform s call).2 = s) (s : σ)
    (calls : List κ) : after perform s (passing perform passes s calls) = after perform s calls := by
  induction calls generalizing s with
  | nil => rfl
  | cons call calls ih =>
    rw [passing]
    cases hpasses : passes (perform s call).1 with
    | true => exact ih _
    | false =>
      have hsame := h s call hpasses
      rw [after_cons, hsame]
      exact ih s

/-- Where such operations are left out, the others are answered as before. -/
theorem answers_passing {passes : ρ → Bool}
    (h : ∀ s call, passes (perform s call).1 = false → (perform s call).2 = s) (s : σ)
    (calls : List κ) :
    answers perform s (passing perform passes s calls) = (answers perform s calls).filter passes := by
  induction calls generalizing s with
  | nil => rfl
  | cons call calls ih =>
    rw [passing, answers]
    cases hpasses : passes (perform s call).1 with
    | true =>
      rw [List.filter_cons_of_pos hpasses, ← ih]
      rfl
    | false =>
      have hsame := h s call hpasses
      rw [List.filter_cons_of_neg (by simp [hpasses]), hsame]
      exact ih s

end

/-- An object refines a simpler one that it can be looked at as: as long as a property holds, which every
operation keeps, operations answer alike and lead to states that look alike. -/
structure Refines (perform : σ → κ → ρ × σ) (perform' : τ → κ → ρ' × τ) (invariant : σ → Prop)
    (look : σ → τ) (content : ρ → ρ') : Prop where
  /-- Every operation keeps the property. -/
  keeps : ∀ s call, invariant s → invariant (perform s call).2
  /-- Operations answer alike. -/
  answer : ∀ s call, invariant s → content (perform s call).1 = (perform' (look s) call).1
  /-- Operations lead to states that look alike. -/
  state : ∀ s call, invariant s → look (perform s call).2 = (perform' (look s) call).2

namespace Refines

variable {perform : σ → κ → ρ × σ} {perform' : τ → κ → ρ' × τ} {invariant : σ → Prop} {look : σ → τ}
  {content : ρ → ρ'}

/-- Histories lead to states that look alike. -/
theorem look_after (h : Refines perform perform' invariant look content) {s : σ} (hs : invariant s)
    (calls : List κ) : look (after perform s calls) = after perform' (look s) calls := by
  induction calls generalizing s with
  | nil => rfl
  | cons call calls ih => rw [after_cons, ih (h.keeps s call hs), h.state s call hs, after_cons]

/-- Histories are answered alike. -/
theorem map_answers (h : Refines perform perform' invariant look content) {s : σ} (hs : invariant s)
    (calls : List κ) : (answers perform s calls).map content = answers perform' (look s) calls := by
  induction calls generalizing s with
  | nil => rfl
  | cons call calls ih =>
    rw [answers, answers, List.map_cons, h.answer s call hs, ih (h.keeps s call hs), h.state s call hs]

/-- The same operations have answers that pass. -/
theorem passing_eq (h : Refines perform perform' invariant look content) {s : σ} (hs : invariant s)
    (passes : ρ' → Bool) (calls : List κ) :
    passing perform (passes ∘ content) s calls = passing perform' passes (look s) calls := by
  induction calls generalizing s with
  | nil => rfl
  | cons call calls ih =>
    rw [passing, passing, Function.comp_apply, h.answer s call hs, ih (h.keeps s call hs),
      h.state s call hs]

end Refines

end Interception.History
