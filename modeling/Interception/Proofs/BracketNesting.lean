import Interception.Proofs.BracketBalance

/-!
# Nested brackets

Brackets are nested if every closing bracket closes the innermost open one, which is of its kind. Along a
nested text the open brackets make a stack, and what a count says is read off it: the number of open
brackets of the kinds that are counted. So a character of a nested text is enclosed by a count exactly if
a bracket of one of these kinds is open where it stands.
-/

namespace Interception.TypeText

/-- Whether a bracket is closed by a bracket of its kind. -/
def pairs (opening closing : Char) : Bool :=
  (opening == '<' && closing == '>') || (opening == '[' && closing == ']') ||
    (opening == '(' && closing == ')')

/-- The brackets that are open after one more character, the innermost first. There are none if the
character does not close the innermost of them. -/
def openStep (stack : List Char) (c : Char) : Option (List Char) :=
  if opens c then some (c :: stack)
  else if closes c then
    match stack with
    | [] => none
    | bracket :: stack => if pairs bracket c then some stack else none
  else some stack

/-- The brackets that are open after a text. -/
def openAfter (stack text : List Char) : Option (List Char) := text.foldlM openStep stack

/-- A text has nested brackets, none of which is left open. -/
def Nested (text : List Char) : Prop := openAfter [] text = some []

/-- Whether brackets are nested is decided along the text. -/
instance decidableNested (text : List Char) : Decidable (Nested text) :=
  inferInstanceAs (Decidable (openAfter [] text = some []))

/-- After a text the brackets are those that were open before it and its own. -/
theorem openAfter_cons {stack rest text : List Char} {c : Char} (h : openAfter stack (c :: text) = some rest) :
    ∃ next, openStep stack c = some next ∧ openAfter next text = some rest := by
  rw [openAfter, List.foldlM_cons] at h
  exact Option.bind_eq_some_iff.mp h

/-- The first part of a nested text leaves some brackets open. -/
theorem openAfter_left {stack rest first second : List Char}
    (h : openAfter stack (first ++ second) = some rest) : ∃ next, openAfter stack first = some next := by
  rw [openAfter, List.foldlM_append] at h
  obtain ⟨next, hnext, _⟩ := Option.bind_eq_some_iff.mp h
  exact ⟨next, hnext⟩

/-- A character opens a bracket, closes the innermost open one, or is none. -/
theorem openStep_cases {stack next : List Char} {c : Char} (h : openStep stack c = some next) :
    (opens c = true ∧ next = c :: stack) ∨ (∃ bracket, stack = bracket :: next ∧ pairs bracket c = true) ∨
      (opens c = false ∧ closes c = false ∧ next = stack) := by
  rw [openStep.eq_def] at h
  split at h
  case isTrue hopens => exact .inl ⟨hopens, (Option.some.inj h).symm⟩
  case isFalse hopens =>
    split at h
    case isTrue =>
      split at h
      · cases h
      · split at h
        case isTrue hpairs => exact .inr (.inl ⟨_, by rw [Option.some.inj h], hpairs⟩)
        case isFalse => cases h
    case isFalse hcloses =>
      exact .inr (.inr ⟨by simpa using hopens, by simpa using hcloses, (Option.some.inj h).symm⟩)

/-- Only opening brackets are open. -/
theorem opens_of_mem_openAfter {stack rest text : List Char} (hstack : ∀ bracket ∈ stack, opens bracket = true)
    (h : openAfter stack text = some rest) : ∀ bracket ∈ rest, opens bracket = true := by
  induction text generalizing stack with
  | nil =>
    cases h
    exact hstack
  | cons c text ih =>
    obtain ⟨next, hnext, hrest⟩ := openAfter_cons h
    refine ih ?_ hrest
    obtain ⟨hopens, rfl⟩ | ⟨bracket, rfl, _⟩ | ⟨_, _, rfl⟩ := openStep_cases hnext
    · exact List.forall_mem_cons.mpr ⟨hopens, hstack⟩
    · exact fun b hb => hstack b (List.mem_cons_of_mem _ hb)
    · exact hstack

namespace BracketCount

/-- A count that takes the brackets of a kind both or neither. -/
structure ByKind (count : BracketCount) : Prop where
  /-- Only closing brackets count as closing. -/
  closing : ∀ c, TypeText.opens c = true → count.closes c = false
  /-- A pair of brackets adds nothing. -/
  pair : ∀ opening closing, pairs opening closing = true →
    count.weight opening + count.weight closing = 0
  /-- Characters other than brackets add nothing. -/
  plain : ∀ c, TypeText.opens c = false → TypeText.closes c = false → count.weight c = 0

/-- All brackets are counted by kind. -/
theorem all_byKind : all.ByKind where
  closing _ := closes_of_opens
  pair opening closing h := by
    simp only [pairs, Bool.or_eq_true, Bool.and_eq_true, beq_iff_eq] at h
    obtain (⟨rfl, rfl⟩ | ⟨rfl, rfl⟩) | ⟨rfl, rfl⟩ := h <;> rfl
  plain _ := all.weight_eq_zero

/-- Angle and square brackets are counted by kind. -/
theorem angleSquare_byKind : angleSquare.ByKind where
  closing c h := by
    simp only [TypeText.opens, Bool.or_eq_true, beq_iff_eq] at h
    obtain (rfl | rfl) | rfl := h <;> decide
  pair opening closing h := by
    simp only [pairs, Bool.or_eq_true, Bool.and_eq_true, beq_iff_eq] at h
    obtain (⟨rfl, rfl⟩ | ⟨rfl, rfl⟩) | ⟨rfl, rfl⟩ := h <;> rfl
  plain c hopens hcloses := by
    simp only [TypeText.opens, TypeText.closes, Bool.or_eq_false_iff] at hopens hcloses
    exact angleSquare.weight_eq_zero (by simp [angleSquare, hopens]) (by simp [angleSquare, hcloses])

/-- Every marked character of a text stands where a bracket that counts as opening is open. -/
def Inside (count : BracketCount) (marked : Char → Bool) (text : List Char) : Prop :=
  ∀ before c after, text = before ++ c :: after → marked c = true →
    ∃ stack, openAfter [] before = some stack ∧ ∃ bracket ∈ stack, count.opens bracket = true

variable {count : BracketCount} {marked : Char → Bool} {text : List Char}

/-- A text adds to the balance what its brackets add to those that are open. -/
theorem balance_of_openAfter {stack rest : List Char} (hcount : count.ByKind)
    (h : openAfter stack text = some rest) :
    count.balance stack + count.balance text = count.balance rest := by
  induction text generalizing stack with
  | nil =>
    cases h
    exact Int.add_zero _
  | cons c text ih =>
    obtain ⟨next, hnext, hrest⟩ := openAfter_cons h
    rw [balance_cons, ← ih hrest, ← Int.add_assoc]
    refine congrArg (· + count.balance text) ?_
    obtain ⟨_, rfl⟩ | ⟨bracket, rfl, hpairs⟩ | ⟨hopens, hcloses, rfl⟩ := openStep_cases hnext
    · rw [balance_cons, Int.add_comm]
    · have hpair := hcount.pair bracket c hpairs
      rw [balance_cons]
      omega
    · rw [hcount.plain c hopens hcloses, Int.add_zero]

/-- Open brackets balance exactly if none of them is counted. -/
theorem balance_ne_zero_iff {stack : List Char} (hcount : count.ByKind)
    (h : ∀ bracket ∈ stack, TypeText.opens bracket = true) :
    count.balance stack ≠ 0 ↔ ∃ bracket ∈ stack, count.opens bracket = true := by
  have hcloses : stack.countP count.closes = 0 := by
    rw [List.countP_eq_zero]
    intro bracket hbracket
    simp [hcount.closing bracket (h bracket hbracket)]
  rw [balance, hcloses, ← List.countP_pos_iff]
  omega

/-- In a nested text a character is enclosed by a count exactly if a bracket that is counted is open. -/
theorem inside_iff_encloses (hcount : count.ByKind) (hnested : Nested text) :
    count.Inside marked text ↔ count.Encloses marked 0 text := by
  have hplace : ∀ before c after, text = before ++ c :: after →
      ∃ stack, openAfter [] before = some stack ∧
        (0 + count.balance before ≠ 0 ↔ ∃ bracket ∈ stack, count.opens bracket = true) := by
    intro before c after he
    rw [Nested, he] at hnested
    obtain ⟨stack, hstack⟩ := openAfter_left hnested
    have hbalance := balance_of_openAfter hcount hstack
    rw [balance_nil] at hbalance
    exact ⟨stack, hstack, by
      rw [hbalance]
      exact balance_ne_zero_iff hcount
        (opens_of_mem_openAfter (fun _ hb => absurd hb List.not_mem_nil) hstack)⟩
  constructor
  · intro h before c after he hc
    obtain ⟨stack, hstack, hiff⟩ := hplace before c after he
    obtain ⟨other, hother, hopen⟩ := h before c after he hc
    rw [hstack] at hother
    cases hother
    exact hiff.mpr hopen
  · intro h before c after he hc
    obtain ⟨stack, hstack, hiff⟩ := hplace before c after he
    exact ⟨stack, hstack, hiff.mp (h before c after he hc)⟩

/-- The brackets of a nested text balance, whichever kinds are counted. -/
theorem balance_of_nested (hcount : count.ByKind) (hnested : Nested text) : count.balance text = 0 := by
  have h := balance_of_openAfter hcount hnested
  rwa [balance_nil, Int.zero_add] at h

end BracketCount

end Interception.TypeText
