import Interception.Proofs.BracketNesting
import Mathlib.Data.List.Induction

/-!
# Brackets that belong together

Counting brackets tells whether every closing bracket closes one that is open and whether none is left open,
whatever the kinds of the two are. Then the brackets are paired. A closing bracket belongs to the opening bracket
from which on the brackets in between are paired. Brackets are nested exactly if they are paired and those that
belong together are of one kind.
-/

namespace Interception.TypeText

/-- How many brackets of any kind are open after one more character. There is no such number if the character
closes a bracket although none is open. -/
def depthStep (depth : Nat) (c : Char) : Option Nat :=
  if opens c then some (depth + 1)
  else if closes c then (if depth = 0 then none else some (depth - 1))
  else some depth

/-- How many brackets are open after a text. -/
def depthAfter (depth : Nat) (text : List Char) : Option Nat := text.foldlM depthStep depth

/-- Every closing bracket closes one that is open, whatever the kinds of the two, and none is left open. -/
def Paired (text : List Char) : Prop := depthAfter 0 text = some 0

/-- Whether brackets are paired is decided along the text. -/
instance decidablePaired (text : List Char) : Decidable (Paired text) :=
  inferInstanceAs (Decidable (depthAfter 0 text = some 0))

/-- Brackets that belong together are of one kind. -/
def OfOneKind (text : List Char) : Prop :=
  ∀ front opening inner closing back, text = front ++ opening :: (inner ++ closing :: back) →
    opens opening = true → closes closing = true → Paired inner → pairs opening closing = true

/-- No closing bracket opens one. -/
theorem opens_of_closes {c : Char} (h : closes c = true) : opens c = false := by
  cases hopens : opens c with
  | false => rfl
  | true => rw [closes_of_opens hopens] at h; cases h

/-- A pair consists of an opening and a closing bracket. -/
theorem opens_closes_of_pairs {opening closing : Char} (h : pairs opening closing = true) :
    opens opening = true ∧ closes closing = true := by
  simp only [pairs, Bool.or_eq_true, Bool.and_eq_true, beq_iff_eq] at h
  obtain (⟨rfl, rfl⟩ | ⟨rfl, rfl⟩) | ⟨rfl, rfl⟩ := h <;> exact ⟨rfl, rfl⟩

section

variable {c : Char}

/-- An opening bracket is one more. -/
theorem depthStep_of_opens (h : opens c = true) (depth : Nat) : depthStep depth c = some (depth + 1) := by
  rw [depthStep, if_pos h]

/-- A closing bracket takes one away. -/
theorem depthStep_of_closes (h : closes c = true) (depth : Nat) : depthStep (depth + 1) c = some depth := by
  rw [depthStep, opens_of_closes h, if_neg Bool.false_ne_true, if_pos h, if_neg (Nat.succ_ne_zero depth),
    Nat.add_sub_cancel]

/-- No bracket can be closed if none is open. -/
theorem depthStep_zero_of_closes (h : closes c = true) : depthStep 0 c = none := by
  rw [depthStep, opens_of_closes h, if_neg Bool.false_ne_true, if_pos h, if_pos rfl]

/-- Other characters leave the number as it is. -/
theorem depthStep_of_plain (hopens : opens c = false) (hcloses : closes c = false) (depth : Nat) :
    depthStep depth c = some depth := by
  rw [depthStep, hopens, hcloses, if_neg Bool.false_ne_true, if_neg Bool.false_ne_true]

/-- One character after the other. -/
theorem depthAfter_cons (depth : Nat) (c : Char) (text : List Char) :
    depthAfter depth (c :: text) = (depthStep depth c).bind (depthAfter · text) := by
  rw [depthAfter, List.foldlM_cons]
  rfl

/-- One text after the other. -/
theorem depthAfter_append (depth : Nat) (first second : List Char) :
    depthAfter depth (first ++ second) = (depthAfter depth first).bind (depthAfter · second) := by
  rw [depthAfter, List.foldlM_append]
  rfl

end

section

variable {stack base rest text : List Char} {opening c : Char} {depth : Nat}

/-- An opening bracket is the innermost. -/
theorem openStep_of_opens (h : opens c = true) (stack : List Char) : openStep stack c = some (c :: stack) := by
  rw [openStep.eq_def, if_pos h]

/-- The innermost bracket is closed by one of its kind. -/
theorem openStep_of_pairs (h : pairs opening c = true) (stack : List Char) :
    openStep (opening :: stack) c = some stack := by
  have hcloses := (opens_closes_of_pairs h).2
  rw [openStep.eq_def, opens_of_closes hcloses, if_neg Bool.false_ne_true, if_pos hcloses]
  exact if_pos h

/-- Other characters leave the open brackets as they are. -/
theorem openStep_of_plain (hopens : ¬ opens c = true) (hcloses : ¬ closes c = true) (stack : List Char) :
    openStep stack c = some stack := by
  rw [openStep.eq_def, if_neg hopens, if_neg hcloses]

/-- The open brackets are as many as counted. -/
theorem depthStep_of_openStep {next : List Char} (h : openStep stack c = some next) :
    depthStep stack.length c = some next.length := by
  obtain ⟨hopens, rfl⟩ | ⟨bracket, rfl, hpairs⟩ | ⟨hopens, hcloses, rfl⟩ := openStep_cases h
  · exact depthStep_of_opens hopens _
  · exact depthStep_of_closes (opens_closes_of_pairs hpairs).2 _
  · exact depthStep_of_plain hopens hcloses _

/-- After a text the open brackets are as many as counted. -/
theorem depthAfter_of_openAfter (h : openAfter stack text = some rest) :
    depthAfter stack.length text = some rest.length := by
  induction text generalizing stack with
  | nil =>
    cases h
    rfl
  | cons c text ih =>
    obtain ⟨next, hnext, hrest⟩ := openAfter_cons h
    rw [depthAfter_cons, depthStep_of_openStep hnext]
    exact ih hrest

/-- A text that does not close more brackets than are open on top leaves those below alone. -/
theorem openAfter_append_base (top : List Char) (h : openAfter (top ++ base) text = some rest)
    (hdepth : depthAfter top.length text = some depth) :
    ∃ kept, rest = kept ++ base ∧ kept.length = depth := by
  induction text generalizing top with
  | nil =>
    cases h
    cases hdepth
    exact ⟨top, rfl, rfl⟩
  | cons c text ih =>
    obtain ⟨next, hnext, hrest⟩ := openAfter_cons h
    rw [depthAfter_cons] at hdepth
    obtain ⟨hopens, rfl⟩ | ⟨bracket, hstack, hpairs⟩ | ⟨hopens, hcloses, rfl⟩ := openStep_cases hnext
    · rw [depthStep_of_opens hopens] at hdepth
      exact ih (c :: top) hrest hdepth
    · have hcloses := (opens_closes_of_pairs hpairs).2
      cases top with
      | nil =>
        rw [List.length_nil, depthStep_zero_of_closes hcloses] at hdepth
        cases hdepth
      | cons first top =>
        obtain ⟨rfl, rfl⟩ := List.cons_eq_cons.mp hstack
        rw [List.length_cons, depthStep_of_closes hcloses] at hdepth
        exact ih top hrest hdepth
    · rw [depthStep_of_plain hopens hcloses] at hdepth
      exact ih top hrest hdepth

/-- The brackets that are open after one text and then another. -/
theorem openAfter_append (stack first second : List Char) :
    openAfter stack (first ++ second) = (openAfter stack first).bind (openAfter · second) := by
  rw [openAfter, List.foldlM_append]
  rfl

/-- A bracket that is open after a text stands where the brackets above it are opened by what follows. -/
theorem exists_opening (above : List Char) (h : openAfter [] text = some (above ++ opening :: stack)) :
    ∃ front inner, text = front ++ opening :: inner ∧ openAfter [] front = some stack ∧
      depthAfter 0 inner = some above.length := by
  induction text using List.reverseRecOn generalizing above with
  | nil => simp [openAfter] at h
  | append_singleton before c ih =>
    rw [openAfter_append] at h
    obtain ⟨brackets, hbefore, hlast⟩ := Option.bind_eq_some_iff.mp h
    obtain ⟨next, hstep, hnext⟩ := openAfter_cons hlast
    obtain rfl := Option.some.inj hnext
    obtain ⟨hopens, hstack⟩ | ⟨bracket, rfl, hpairs⟩ | ⟨hopens, hcloses, rfl⟩ := openStep_cases hstep
    · cases above with
      | nil =>
        obtain ⟨rfl, rfl⟩ := List.cons_eq_cons.mp hstack
        exact ⟨before, [], rfl, hbefore, rfl⟩
      | cons bracket above =>
        obtain ⟨rfl, rfl⟩ := List.cons_eq_cons.mp hstack
        obtain ⟨front, inner, rfl, hfront, hinner⟩ := ih above hbefore
        refine ⟨front, inner ++ [bracket], by simp, hfront, ?_⟩
        rw [depthAfter_append, hinner, Option.bind_some, depthAfter_cons, depthStep_of_opens hopens]
        rfl
    · obtain ⟨front, inner, rfl, hfront, hinner⟩ := ih (bracket :: above) hbefore
      refine ⟨front, inner ++ [c], by simp, hfront, ?_⟩
      rw [depthAfter_append, hinner, Option.bind_some, depthAfter_cons, List.length_cons,
        depthStep_of_closes (opens_closes_of_pairs hpairs).2]
      rfl
    · obtain ⟨front, inner, rfl, hfront, hinner⟩ := ih above hbefore
      refine ⟨front, inner ++ [c], by simp, hfront, ?_⟩
      rw [depthAfter_append, hinner, Option.bind_some, depthAfter_cons, depthStep_of_plain hopens hcloses]
      rfl

/-- Nested brackets are paired. -/
theorem Nested.paired (h : Nested text) : Paired text := depthAfter_of_openAfter h

/-- Nested brackets that belong together are of one kind. -/
theorem Nested.ofOneKind (h : Nested text) : OfOneKind text := by
  rintro front opening inner closing back rfl hopening hclosing hinner
  rw [Nested, openAfter_append] at h
  obtain ⟨stack, _, hstack⟩ := Option.bind_eq_some_iff.mp h
  obtain ⟨opened, hopened, hrest⟩ := openAfter_cons hstack
  rw [openStep_of_opens hopening] at hopened
  cases hopened
  rw [openAfter_append] at hrest
  obtain ⟨before, hbefore, hlast⟩ := Option.bind_eq_some_iff.mp hrest
  -- What stands in between is paired, so the opening bracket is still the innermost one.
  obtain ⟨kept, rfl, hkept⟩ := openAfter_append_base [] hbefore hinner
  obtain rfl := List.length_eq_zero_iff.mp hkept
  obtain ⟨next, hnext, _⟩ := openAfter_cons hlast
  obtain ⟨hopens, _⟩ | ⟨bracket, hstack, hpairs⟩ | ⟨_, hcloses, _⟩ := openStep_cases hnext
  · rw [opens_of_closes hclosing] at hopens
    cases hopens
  · obtain ⟨rfl, _⟩ := List.cons_eq_cons.mp hstack
    exact hpairs
  · rw [hclosing] at hcloses
    cases hcloses

/-- Paired brackets of one kind never close a bracket of another kind. -/
theorem exists_openAfter {front back : List Char} (hpaired : Paired (front ++ back))
    (hkind : OfOneKind (front ++ back)) : ∃ stack, openAfter [] front = some stack := by
  induction front using List.reverseRecOn generalizing back with
  | nil => exact ⟨[], rfl⟩
  | append_singleton before c ih =>
    rw [List.append_assoc, List.singleton_append] at hpaired hkind
    obtain ⟨stack, hstack⟩ := ih hpaired hkind
    suffices hstep : ∃ next, openStep stack c = some next by
      obtain ⟨next, hnext⟩ := hstep
      refine ⟨next, ?_⟩
      rw [openAfter_append, hstack, Option.bind_some, openAfter, List.foldlM_cons, hnext]
      rfl
    by_cases hopens : opens c = true
    · exact ⟨_, openStep_of_opens hopens stack⟩
    · by_cases hcloses : closes c = true
      · cases stack with
        | nil =>
          have hzero : depthAfter 0 before = some 0 := depthAfter_of_openAfter hstack
          rw [Paired, depthAfter_append, hzero, Option.bind_some, depthAfter_cons,
            depthStep_zero_of_closes hcloses] at hpaired
          cases hpaired
        | cons opening stack =>
          obtain ⟨front, inner, rfl, _, hinner⟩ := exists_opening [] hstack
          have hopening : opens opening = true :=
            opens_of_mem_openAfter (fun _ h => absurd h List.not_mem_nil) hstack _ List.mem_cons_self
          have hpairs := hkind front opening inner c back (by simp) hopening hcloses hinner
          exact ⟨stack, openStep_of_pairs hpairs stack⟩
      · exact ⟨stack, openStep_of_plain hopens hcloses stack⟩

/-- Brackets are nested exactly if they are paired and those that belong together are of one kind. -/
theorem nested_iff (text : List Char) : Nested text ↔ Paired text ∧ OfOneKind text := by
  refine ⟨fun h => ⟨h.paired, h.ofOneKind⟩, fun ⟨hpaired, hkind⟩ => ?_⟩
  have hwhole : text ++ [] = text := List.append_nil text
  obtain ⟨stack, hstack⟩ := exists_openAfter (hwhole.symm ▸ hpaired) (hwhole.symm ▸ hkind)
  have hdepth : depthAfter 0 text = some stack.length := depthAfter_of_openAfter hstack
  rw [hpaired] at hdepth
  rw [Nested, hstack, List.length_eq_zero_iff.mp (Option.some.inj hdepth).symm]

end

end Interception.TypeText
