import Interception.Proofs.PointcutText

/-!
# Counting brackets in 32 bits

The count of open brackets has no bound. A reader that keeps it in a signed word of 32 bits reads the same texts as
long as the count never leaves the range of such a word, and it does not in a text with fewer than `2147483648`
opening and as many closing brackets. No part of a text has more of them than the text, so that every check and
every cut that reading consists of comes out the same, whatever the word does when it overflows.
-/

namespace Interception

namespace TypeText

/-- Checks the characters of a type text one after the other, with the count of open brackets in a word. -/
def checkFromWord (text : List Char) : Int32 → List Char → Except Fault Unit
  | depth, [] => if depth = 0 then .ok () else .error (.unbalanced (String.ofList text))
  | depth, c :: rest =>
    if opens c then checkFromWord text (depth + 1) rest
    else if closes c then
      if depth - 1 < 0 then .error (.unbalanced (String.ofList text))
      else checkFromWord text (depth - 1) rest
    else if isPlain c then checkFromWord text depth rest
    else .error (.illegalChar (String.ofList text) c)

namespace BracketCount

/-- The count stays in the range of a word of 32 bits at every place of a text. It is at `start` before the
text. -/
def FitsWord (count : BracketCount) (start : Int) (text : List Char) : Prop :=
  ∀ before, before <+: text →
    -2147483648 ≤ start + count.balance before ∧ start + count.balance before < 2147483648

variable {count : BracketCount} {start : Int}

/-- The count is in range before the text. -/
theorem FitsWord.inRange {text : List Char} (h : count.FitsWord start text) :
    -2147483648 ≤ start ∧ start < 2147483648 := by
  simpa using h [] List.nil_prefix

/-- After the first character the count stays in range as well. -/
theorem FitsWord.tail {c : Char} {text : List Char} (h : count.FitsWord start (c :: text)) :
    count.FitsWord (start + count.weight c) text := by
  intro before hbefore
  have hwhole := h (c :: before) (List.cons_prefix_cons.mpr ⟨rfl, hbefore⟩)
  rwa [balance_cons, ← Int.add_assoc] at hwhole

/-- The count stays in range where few enough brackets are opened and closed. -/
theorem fitsWord_of_countP {text : List Char} (hopens : text.countP count.opens < 2147483648)
    (hcloses : text.countP count.closes < 2147483648) : count.FitsWord 0 text := by
  intro before hbefore
  have hopened := hbefore.sublist.countP_le (p := count.opens)
  have hclosed := hbefore.sublist.countP_le (p := count.closes)
  rw [balance]
  omega

end BracketCount

/-- A word that holds the count holds it after an opening bracket. -/
theorem toInt_add_one {depth : Int32} (h : depth.toInt + 1 < 2147483648) : (depth + 1).toInt = depth.toInt + 1 := by
  have hle := depth.le_toInt
  rw [Int32.toInt_add, Int32.toInt_one]
  exact Int.bmod_eq_of_le (by omega) (by omega)

/-- A word that holds the count holds it after a closing bracket. -/
theorem toInt_sub_one {depth : Int32} (h : -2147483648 ≤ depth.toInt - 1) : (depth - 1).toInt = depth.toInt - 1 := by
  have hlt := depth.toInt_lt
  rw [Int32.toInt_sub, Int32.toInt_one]
  exact Int.bmod_eq_of_le (by omega) (by omega)

/-- A word that holds the count is zero where the count is. -/
theorem eq_zero_iff_toInt {depth : Int32} : depth = 0 ↔ depth.toInt = 0 := by
  rw [← Int32.toInt_inj, Int32.toInt_zero]

/-- The check with a word is the check without a bound as long as the count stays in range. -/
theorem checkFromWord_eq {text rest : List Char} {depth : Nat} {word : Int32} (hword : word.toInt = depth)
    (hfits : BracketCount.all.FitsWord depth rest) : checkFromWord text word rest = checkFrom text depth rest := by
  induction rest generalizing depth word with
  | nil => simp only [checkFromWord, checkFrom, eq_zero_iff_toInt, hword, Int.natCast_eq_zero]
  | cons c rest ih =>
    have hnext := hfits.tail
    have hrange := hnext.inRange
    rw [weight_all] at hnext hrange
    rw [checkFromWord, checkFrom.eq_def]
    simp only
    by_cases hopens : opens c = true
    · rw [if_pos hopens] at hnext hrange
      rw [if_pos hopens, if_pos hopens]
      exact ih (by rw [toInt_add_one (hword ▸ hrange.2), hword]; rfl) hnext
    · rw [if_neg hopens] at hnext hrange
      rw [if_neg hopens, if_neg hopens]
      by_cases hcloses : closes c = true
      · rw [if_pos hcloses] at hnext hrange
        rw [if_pos hcloses, if_pos hcloses]
        have hclosed : (word - 1).toInt = depth - 1 := by rw [toInt_sub_one (hword ▸ hrange.1), hword]
        simp only [Int32.lt_iff_toInt_lt, hclosed, Int32.toInt_zero]
        cases depth with
        | zero => rfl
        | succ depth =>
          rw [if_neg (by omega)]
          exact ih (by omega) (by simpa [Int.add_assoc] using hnext)
      · rw [if_neg hcloses] at hnext
        rw [if_neg hcloses, if_neg hcloses, ih hword (by simpa using hnext)]

end TypeText

namespace Pointcut

open TypeText

/-- Cuts a text at its first blank character outside angle and square brackets, with the count in a word. -/
def splitReturnWord (front : List Char) (depth : Int32) : List Char → Option (List Char × List Char)
  | [] => none
  | c :: rest =>
    if c = '<' ∨ c = '[' then splitReturnWord (c :: front) (depth + 1) rest
    else if c = '>' ∨ c = ']' then splitReturnWord (c :: front) (depth - 1) rest
    else if Text.isBlank c ∧ depth = 0 then
      let rest := Text.trim (c :: rest)
      if rest.isEmpty then none else some (front.reverse, rest)
    else splitReturnWord (c :: front) depth rest

/-- Cuts a text at its commas outside brackets of any kind, with the count in a word. -/
def splitCommasWord (depth : Int32) : List Char → List (List Char)
  | [] => [[]]
  | c :: rest =>
    if c = ',' ∧ depth = 0 then [] :: splitCommasWord depth rest
    else
      let depth := if opens c then depth + 1 else if closes c then depth - 1 else depth
      match splitCommasWord depth rest with
      | [] => [[c]]
      | part :: parts => (c :: part) :: parts

/-- The result type is cut off in the same place with a word, as long as the count stays in range. -/
theorem splitReturnWord_eq {front text : List Char} {depth : Int} {word : Int32} (hword : word.toInt = depth)
    (hfits : BracketCount.angleSquare.FitsWord depth text) :
    splitReturnWord front word text = splitReturn front depth text := by
  induction text generalizing front depth word with
  | nil => rfl
  | cons c rest ih =>
    have hnext := hfits.tail
    have hrange := hnext.inRange
    rw [weight_angleSquare] at hnext hrange
    simp only [splitReturnWord, splitReturn, eq_zero_iff_toInt, hword]
    by_cases hopens : c = '<' ∨ c = '['
    · rw [if_pos hopens] at hnext hrange
      rw [if_pos hopens, if_pos hopens]
      exact ih (by rw [toInt_add_one (hword ▸ hrange.2), hword]) hnext
    · rw [if_neg hopens] at hnext hrange
      rw [if_neg hopens, if_neg hopens]
      by_cases hcloses : c = '>' ∨ c = ']'
      · rw [if_pos hcloses] at hnext hrange
        rw [if_pos hcloses, if_pos hcloses]
        exact ih (by rw [toInt_sub_one (hword ▸ hrange.1), hword]) hnext
      · rw [if_neg hcloses, Int.add_zero] at hnext
        rw [if_neg hcloses, if_neg hcloses, ih hword hnext]

/-- The parameters are cut in the same places with a word, as long as the count stays in range. -/
theorem splitCommasWord_eq {text : List Char} {depth : Int} {word : Int32} (hword : word.toInt = depth)
    (hfits : BracketCount.all.FitsWord depth text) : splitCommasWord word text = splitCommas depth text := by
  induction text generalizing depth word with
  | nil => rfl
  | cons c rest ih =>
    have hnext := hfits.tail
    have hrange := hnext.inRange
    rw [weight_all] at hnext hrange
    have hlater : (if opens c then word + 1 else if closes c then word - 1 else word).toInt =
        if opens c then depth + 1 else if closes c then depth - 1 else depth := by
      by_cases hopens : opens c = true
      · rw [if_pos hopens] at hrange
        rw [if_pos hopens, if_pos hopens, toInt_add_one (hword ▸ hrange.2), hword]
      · rw [if_neg hopens] at hrange
        rw [if_neg hopens, if_neg hopens]
        by_cases hcloses : closes c = true
        · rw [if_pos hcloses] at hrange
          rw [if_pos hcloses, if_pos hcloses, toInt_sub_one (hword ▸ hrange.1), hword]
        · rw [if_neg hcloses, if_neg hcloses, hword]
    simp only [splitCommasWord, splitCommas, eq_zero_iff_toInt, hword]
    by_cases hcomma : c = ',' ∧ depth = 0
    · rw [if_pos hcomma, if_pos hcomma]
      obtain ⟨rfl, -⟩ := hcomma
      rw [ih hword (by simpa [opens, closes] using hnext)]
    · have hsum : (if opens c then depth + 1 else if closes c then depth - 1 else depth) =
          depth + if opens c = true then 1 else if closes c = true then -1 else 0 := by
        split
        · rfl
        · split <;> omega
      obtain ⟨part, parts, hparts⟩ := exists_splitCommas
        (if opens c then depth + 1 else if closes c then depth - 1 else depth) rest
      simp only [if_neg hcomma, ih hlater (hsum ▸ hnext), hparts]

/-- With fewer than two to the 31st opening and as many closing brackets in a text, it makes no difference to the
check and to the cuts that the open brackets are counted in a word of 32 bits. -/
theorem counted_in_word {text : List Char} (hopens : text.countP opens < 2147483648)
    (hcloses : text.countP closes < 2147483648) : checkFromWord text 0 text = checkFrom text 0 text ∧
      splitReturnWord [] 0 text = splitReturn [] 0 text ∧ splitCommasWord 0 text = splitCommas 0 text := by
  have hall : BracketCount.all.FitsWord 0 text := BracketCount.fitsWord_of_countP hopens hcloses
  have hangleSquare : BracketCount.angleSquare.FitsWord 0 text := by
    refine BracketCount.fitsWord_of_countP (Nat.lt_of_le_of_lt ?_ hopens) (Nat.lt_of_le_of_lt ?_ hcloses)
    · exact List.countP_mono_left fun c _ hc => by simp_all [BracketCount.angleSquare, opens]
    · exact List.countP_mono_left fun c _ hc => by simp_all [BracketCount.angleSquare, closes]
  exact ⟨checkFromWord_eq Int32.toInt_zero hall, splitReturnWord_eq Int32.toInt_zero hangleSquare,
    splitCommasWord_eq Int32.toInt_zero hall⟩

end Pointcut

end Interception
