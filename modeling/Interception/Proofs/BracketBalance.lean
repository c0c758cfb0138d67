import Interception.Proofs.TrimmedText

/-!
# Counting brackets

Reading a pointcut counts brackets: at each place of a text, the number of brackets opened before it less
the number of those closed. Two counts are used. The parameters are divided at commas where the count of
all three kinds is zero, and the result type ends at a blank character where the count of angle and square
brackets is zero. A character is enclosed where the count is not zero, whichever count it is.
-/

namespace Interception.TypeText

/-- Which brackets are counted. -/
structure BracketCount where
  /-- Whether a character counts as opening. -/
  opens : Char → Bool
  /-- Whether a character counts as closing. -/
  closes : Char → Bool

namespace BracketCount

/-- Counts brackets of all three kinds. -/
def all : BracketCount := ⟨TypeText.opens, TypeText.closes⟩

/-- Counts angle and square brackets. -/
def angleSquare : BracketCount := ⟨fun c => c == '<' || c == '[', fun c => c == '>' || c == ']'⟩

variable (count : BracketCount)

/-- The number of brackets opened in a text less the number of those closed. -/
def balance (text : List Char) : Int := text.countP count.opens - text.countP count.closes

/-- What one character adds to the balance. -/
def weight (c : Char) : Int := count.balance [c]

@[simp] theorem balance_nil : count.balance [] = 0 := rfl

@[simp] theorem balance_append (first second : List Char) :
    count.balance (first ++ second) = count.balance first + count.balance second := by
  simp only [balance, List.countP_append]
  omega

theorem balance_cons (c : Char) (text : List Char) :
    count.balance (c :: text) = count.weight c + count.balance text :=
  count.balance_append [c] text

/-- A character that counts neither as opening nor as closing has no weight. -/
theorem weight_eq_zero {c : Char} (hopens : count.opens c = false) (hcloses : count.closes c = false) :
    count.weight c = 0 := by
  simp [weight, balance, hopens, hcloses]

/-- Characters without weight leave the balance at zero. -/
theorem balance_eq_zero {text : List Char} (h : ∀ c ∈ text, count.weight c = 0) :
    count.balance text = 0 := by
  induction text with
  | nil => rfl
  | cons c text ih =>
    rw [balance_cons, h c List.mem_cons_self, ih fun d hd => h d (List.mem_cons_of_mem _ hd)]
    rfl

/-- Every marked character of a text stands where the count is not zero. The count is at `start` before
the text. -/
def Encloses (marked : Char → Bool) (start : Int) (text : List Char) : Prop :=
  ∀ before c after, text = before ++ c :: after → marked c = true → start + count.balance before ≠ 0

variable {count} {marked : Char → Bool} {start : Int}

/-- Nothing stands in the empty text. -/
theorem encloses_nil : count.Encloses marked start [] := by
  intro before c after h
  simp at h

/-- The first character is enclosed if the count is not at zero before the text, and the others from the
count after the first on. -/
theorem encloses_cons_iff {c : Char} {text : List Char} :
    count.Encloses marked start (c :: text) ↔
      (marked c = true → start ≠ 0) ∧ count.Encloses marked (start + count.weight c) text := by
  constructor
  · intro h
    refine ⟨fun hc => by simpa using h [] c text rfl hc, fun before d after he hd => ?_⟩
    have hrest := h (c :: before) d after (by rw [he]; rfl) hd
    rw [balance_cons] at hrest
    omega
  · rintro ⟨hfirst, hrest⟩ before d after he hd
    cases before with
    | nil =>
      cases he
      simpa using hfirst hd
    | cons e before =>
      cases he
      have hlater := hrest before d after rfl hd
      rw [balance_cons]
      omega

/-- A text with a marked character that is not enclosed has a first one. -/
theorem exists_first_of_not_encloses {text : List Char} (h : ¬ count.Encloses marked start text) :
    ∃ before c after, text = before ++ c :: after ∧ marked c = true ∧
      start + count.balance before = 0 ∧ count.Encloses marked start before := by
  induction text generalizing start with
  | nil => exact absurd encloses_nil h
  | cons c text ih =>
    by_cases hfirst : marked c = true ∧ start = 0
    · exact ⟨[], c, text, rfl, hfirst.1, by simpa using hfirst.2, encloses_nil⟩
    · have hstart : marked c = true → start ≠ 0 := fun hc hzero => hfirst ⟨hc, hzero⟩
      obtain ⟨before, d, after, rfl, hd, hbalance, hbefore⟩ :=
        ih fun hrest => h (encloses_cons_iff.mpr ⟨hstart, hrest⟩)
      refine ⟨c :: before, d, after, rfl, hd, ?_, encloses_cons_iff.mpr ⟨hstart, hbefore⟩⟩
      rw [balance_cons]
      omega

/-- Whether a text's marked characters are enclosed is decided along the text. -/
instance decidableEncloses (count : BracketCount) (marked : Char → Bool) :
    (start : Int) → (text : List Char) → Decidable (count.Encloses marked start text)
  | _, [] => .isTrue encloses_nil
  | start, c :: text =>
    have := decidableEncloses count marked (start + count.weight c) text
    decidable_of_iff _ encloses_cons_iff.symm

/-- What stands at the start of a text is enclosed if the text is. -/
theorem Encloses.left {first second : List Char} (h : count.Encloses marked start (first ++ second)) :
    count.Encloses marked start first := by
  intro before c after he hc
  exact h before c (after ++ second) (by simp [he]) hc

/-- What stands after characters without weight is enclosed if the whole is. -/
theorem Encloses.right {first second : List Char} (h : count.Encloses marked start (first ++ second))
    (hweight : ∀ c ∈ first, count.weight c = 0) : count.Encloses marked start second := by
  intro before c after he hc
  have hwhole := h (first ++ before) c after (by simp [he]) hc
  rwa [balance_append, balance_eq_zero count hweight, Int.zero_add] at hwhole

end BracketCount

/-- No blank character is a bracket. -/
theorem weight_of_isBlank {c : Char} (h : Text.isBlank c = true) :
    BracketCount.all.weight c = 0 := by
  have hnot : ∀ d : Char, Text.isBlank d = false → c ≠ d := fun _ => Text.ne_of_isBlank h
  refine BracketCount.all.weight_eq_zero ?_ ?_
  · simp [BracketCount.all, opens, hnot '<' (by decide), hnot '[' (by decide), hnot '(' (by decide)]
  · simp [BracketCount.all, closes, hnot '>' (by decide), hnot ']' (by decide), hnot ')' (by decide)]

/-- A character that a type text may hold. -/
def IsLegalChar (c : Char) : Prop := opens c = true ∨ closes c = true ∨ isPlain c = true

/-- Only the space is both blank and legal in a type text. -/
theorem IsLegalChar.eq_space {c : Char} (h : IsLegalChar c) (hblank : Text.isBlank c = true) :
    c = ' ' := by
  have hnot : ∀ d : Char, Text.isBlank d = false → c ≠ d := fun _ => Text.ne_of_isBlank hblank
  obtain hopens | hcloses | hplain := h
  · simp [opens, hnot '<' (by decide), hnot '[' (by decide), hnot '(' (by decide)] at hopens
  · simp [closes, hnot '>' (by decide), hnot ']' (by decide), hnot ')' (by decide)] at hcloses
  · have hidentifier : isIdentifierChar c = false := by
      cases hc : isIdentifierChar c with
      | false => rfl
      | true => rw [isBlank_of_isIdentifierChar hc] at hblank; cases hblank
    simpa [isPlain, hidentifier, hnot '.' (by decide), hnot ',' (by decide), hnot ':' (by decide),
      hnot '&' (by decide), hnot '\'' (by decide)] using hplain

/-- No opening bracket closes one. -/
theorem closes_of_opens {c : Char} (h : opens c = true) : closes c = false := by
  simp only [opens, Bool.or_eq_true, beq_iff_eq] at h
  obtain (rfl | rfl) | rfl := h <;> decide

/-- What one character of a type text adds to the count of all brackets. -/
theorem weight_all (c : Char) : BracketCount.all.weight c =
    if opens c = true then 1 else if closes c = true then -1 else 0 := by
  cases hopens : opens c <;> cases hcloses : closes c <;>
    simp [BracketCount.weight, BracketCount.balance, BracketCount.all, hopens, hcloses]
  simp [closes_of_opens hopens] at hcloses

/-- A character that the check passes is legal, and the check goes on with its weight added to the count,
whatever follows and whatever text is reported. -/
theorem checkFrom_cons {text rest : List Char} {depth : Nat} {c : Char}
    (h : checkFrom text depth (c :: rest) = .ok ()) :
    IsLegalChar c ∧ ∃ next : Nat, (next : Int) = depth + BracketCount.all.weight c ∧
      ∀ text' rest', checkFrom text' depth (c :: rest') = checkFrom text' next rest' := by
  rw [weight_all]
  rw [checkFrom.eq_def] at h
  simp only at h
  by_cases hopens : opens c = true
  · refine ⟨.inl hopens, depth + 1, by simp [hopens], fun text' rest' => ?_⟩
    rw [checkFrom.eq_def]
    simp only [hopens, if_true]
  · rw [if_neg hopens] at h
    by_cases hcloses : closes c = true
    · rw [if_pos hcloses] at h
      cases depth with
      | zero => cases h
      | succ depth =>
        refine ⟨.inr (.inl hcloses), depth, ?_, fun text' rest' => ?_⟩
        · rw [if_neg hopens, if_pos hcloses]
          omega
        · rw [checkFrom.eq_def]
          simp only [hopens, hcloses, Bool.false_eq_true, if_true, if_false]
    · rw [if_neg hcloses] at h
      by_cases hplain : isPlain c = true
      · refine ⟨.inr (.inr hplain), depth, by simp [hopens, hcloses], fun text' rest' => ?_⟩
        rw [checkFrom.eq_def]
        simp only [hopens, hcloses, hplain, Bool.false_eq_true, if_true, if_false]
      · rw [if_neg hplain] at h
        cases h

/-- The check of a type text accepts legal characters only and ends at a count of zero. -/
theorem checkFrom_sound {text rest : List Char} {depth : Nat} (h : checkFrom text depth rest = .ok ()) :
    depth + BracketCount.all.balance rest = 0 ∧ ∀ c ∈ rest, IsLegalChar c := by
  induction rest generalizing depth with
  | nil =>
    rw [checkFrom] at h
    split at h
    · simp [*]
    · cases h
  | cons c rest ih =>
    obtain ⟨hc, next, hnext, hstep⟩ := checkFrom_cons h
    rw [hstep] at h
    obtain ⟨hbalance, hlegal⟩ := ih h
    rw [BracketCount.balance_cons]
    exact ⟨by omega, List.forall_mem_cons.mpr ⟨hc, hlegal⟩⟩

/-- The check finds no other fault with the first part of an accepted text than brackets left open. -/
theorem checkFrom_left {text text' first second : List Char} {depth : Nat}
    (h : checkFrom text depth (first ++ second) = .ok ()) : checkFrom text' depth first =
      if depth + BracketCount.all.balance first = 0 then .ok ()
      else .error (.unbalanced (String.ofList text')) := by
  induction first generalizing depth with
  | nil => simp [checkFrom]
  | cons c first ih =>
    obtain ⟨_, next, hnext, hstep⟩ := checkFrom_cons h
    rw [List.cons_append, hstep] at h
    rw [hstep, ih h, BracketCount.balance_cons, hnext, Int.add_assoc]

/-- The check accepts no empty text. -/
theorem ne_nil_of_check {text : List Char} (h : check text = .ok ()) : text ≠ [] := by
  rintro rfl
  cases h

/-- An accepted text closes as many brackets as it opens, and has legal characters only. -/
theorem check_sound {text : List Char} (h : check text = .ok ()) :
    BracketCount.all.balance text = 0 ∧ ∀ c ∈ text, IsLegalChar c := by
  have hn : text.isEmpty = false := by simpa using ne_nil_of_check h
  rw [check, hn] at h
  obtain ⟨hbalance, hlegal⟩ := checkFrom_sound h
  exact ⟨by omega, hlegal⟩

/-- The first part of an accepted text is not accepted where brackets are left open. -/
theorem check_left {first second : List Char} (h : check (first ++ second) = .ok ())
    (hopen : BracketCount.all.balance first ≠ 0) :
    check first = .error (.unbalanced (String.ofList first)) := by
  have hn : (first ++ second).isEmpty = false := by simpa using ne_nil_of_check h
  have hfirst : first.isEmpty = false := by
    rw [List.isEmpty_eq_false_iff]
    rintro rfl
    exact hopen rfl
  rw [check, hn] at h
  rw [check, hfirst, if_neg Bool.false_ne_true, checkFrom_left h, if_neg (by omega)]

end Interception.TypeText
