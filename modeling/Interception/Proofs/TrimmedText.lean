import Interception.Pattern.TypeText

/-!
# Trimmed texts

Trimming cuts blank characters off both ends of a text and nothing else. So a text whose ends are not
blank stays as it is, and what is left of any text has no blank ends. No character of an identifier is
blank: the tables of the two classes have no code point in common. Among the characters of a type text
the space is the only blank one.
-/

namespace Interception

namespace Text

/-- A character that one of two tables holds is not held by the other when no ranges of theirs meet. -/
theorem inRanges_eq_false {first second : List (Nat × Nat)} {c : Char}
    (happart : (first.all fun a => second.all fun b => a.2 < b.1 || b.2 < a.1) = true)
    (h : inRanges first c = true) : inRanges second c = false := by
  rw [inRanges, List.any_eq_false]
  intro b hb hin
  obtain ⟨a, ha, hheld⟩ := List.any_eq_true.mp h
  have hpair := List.all_eq_true.mp (List.all_eq_true.mp happart a ha) b hb
  simp only [Bool.and_eq_true, Bool.or_eq_true, decide_eq_true_eq] at hheld hin hpair
  omega

/-- No letter and no number is blank. -/
theorem isBlank_of_isAlphanumeric {c : Char} (h : isAlphanumeric c = true) : isBlank c = false := by
  rw [isAlphanumeric, Bool.or_eq_true] at h
  obtain hascii | htable := h
  · rw [isBlank, inRanges, List.any_eq_false]
    intro range hrange hin
    simp only [blankRanges, List.mem_cons, List.not_mem_nil, or_false] at hrange
    simp only [Bool.and_eq_true, decide_eq_true_eq] at hin
    have hcode : 0x30 ≤ c.toNat ∧ c.toNat ≤ 0x7a := by
      change (decide ('A'.val ≤ c.val ∧ c.val ≤ 'Z'.val) ||
        (decide ('a'.val ≤ c.val) && decide (c.val ≤ 'z'.val)) ||
        (decide ('0'.val ≤ c.val) && decide (c.val ≤ '9'.val))) = true at hascii
      simp only [Bool.or_eq_true, Bool.and_eq_true, decide_eq_true_eq,
        UInt32.le_iff_toNat_le] at hascii
      simp only [Char.toNat]
      grind
    grind
  · rw [Bool.and_eq_true] at htable
    exact inRanges_eq_false (by decide +kernel) htable.2

/-- A blank character is other than one that is not blank. -/
theorem ne_of_isBlank {c d : Char} (hc : isBlank c = true) (hd : isBlank d = false) : c ≠ d := by
  rintro rfl
  rw [hc] at hd
  exact Bool.false_ne_true hd.symm

/-- A text that begins with a character that is not blank has no blank start. -/
theorem trimStart_eq_self {text : List Char} (h : ∀ c ∈ text.head?, isBlank c = false) :
    trimStart text = text := by
  cases text with
  | nil => rfl
  | cons c text =>
    have hc := h c rfl
    rw [trimStart, List.dropWhile_cons_of_neg (by simp [hc])]

/-- A text with ends that are not blank stays as it is. -/
theorem trim_eq_self {text : List Char} (hfirst : ∀ c ∈ text.head?, isBlank c = false)
    (hlast : ∀ c ∈ text.getLast?, isBlank c = false) : trim text = text := by
  have hreverse : trimStart text.reverse = text.reverse :=
    trimStart_eq_self (by rwa [List.head?_reverse])
  rw [trim, trimStart_eq_self hfirst, trimEnd, hreverse, List.reverse_reverse]

/-- A text without blank characters stays as it is. -/
theorem trim_of_forall {text : List Char} (h : ∀ c ∈ text, isBlank c = false) : trim text = text :=
  trim_eq_self (fun c hc => h c (List.mem_of_mem_head? hc)) fun c hc => h c (List.mem_of_mem_getLast? hc)

/-- A text stays as it is if it stands between two characters that are not blank. -/
theorem trim_cons_concat {first last : Char} (text : List Char) (hfirst : isBlank first = false)
    (hlast : isBlank last = false) : trim (first :: (text ++ [last])) = first :: (text ++ [last]) := by
  refine trim_eq_self (fun c hc => ?_) fun c hc => ?_
  · cases hc
    exact hfirst
  · rw [← List.cons_append, List.getLast?_concat] at hc
    cases hc
    exact hlast

/-- Without its blank start, a text begins with a character that is not blank. -/
theorem head_trimStart {text : List Char} {c : Char} (h : c ∈ (trimStart text).head?) :
    isBlank c = false := by
  have hnot := List.head?_dropWhile_not isBlank text
  rw [show (text.dropWhile isBlank).head? = some c from h] at hnot
  exact hnot

/-- A blank start is blank. -/
theorem exists_trimStart (text : List Char) :
    ∃ before, text = before ++ trimStart text ∧ ∀ c ∈ before, isBlank c = true :=
  ⟨text.takeWhile isBlank, List.takeWhile_append_dropWhile.symm,
    fun _ hc => List.all_eq_true.mp List.all_takeWhile _ hc⟩

/-- A blank end is blank. -/
theorem exists_trimEnd (text : List Char) :
    ∃ after, text = trimEnd text ++ after ∧ ∀ c ∈ after, isBlank c = true := by
  obtain ⟨after, hafter, hblank⟩ := exists_trimStart text.reverse
  refine ⟨after.reverse, ?_, fun c hc => hblank c (List.mem_reverse.mp hc)⟩
  have hsplit := congrArg List.reverse hafter
  rwa [List.reverse_reverse, List.reverse_append] at hsplit

/-- A text is what trimming leaves of it between blank characters. -/
theorem exists_trim (text : List Char) :
    ∃ before after, text = before ++ trim text ++ after ∧ (∀ c ∈ before, isBlank c = true) ∧
      ∀ c ∈ after, isBlank c = true := by
  obtain ⟨before, hbefore, hblank⟩ := exists_trimStart text
  obtain ⟨after, hafter, hblank'⟩ := exists_trimEnd (trimStart text)
  refine ⟨before, after, ?_, hblank, hblank'⟩
  rw [List.append_assoc, trim, ← hafter]
  exact hbefore

/-- A text with a character that is not blank is not trimmed away. -/
theorem trim_ne_nil {text : List Char} {c : Char} (hc : c ∈ text) (hblank : isBlank c = false) :
    trim text ≠ [] := by
  intro htrim
  obtain ⟨before, after, hsplit, hbefore, hafter⟩ := exists_trim text
  rw [hsplit, htrim, List.append_nil, List.mem_append] at hc
  obtain hc | hc := hc
  · exact ne_of_isBlank (hbefore c hc) hblank rfl
  · exact ne_of_isBlank (hafter c hc) hblank rfl

/-- What trimming leaves does not begin with a blank character. -/
theorem head_trim {text : List Char} {c : Char} (h : c ∈ (trim text).head?) : isBlank c = false := by
  obtain ⟨after, hafter, _⟩ := exists_trimEnd (trimStart text)
  have hhead : c ∈ (trimStart text).head? := by
    rw [hafter, List.head?_append, show (trimEnd (trimStart text)).head? = some c from h]
    rfl
  exact head_trimStart hhead

/-- What trimming leaves does not end with a blank character. -/
theorem getLast_trim {text : List Char} {c : Char} (h : c ∈ (trim text).getLast?) :
    isBlank c = false := by
  rw [trim, trimEnd, List.getLast?_reverse] at h
  exact head_trimStart h

/-- What trimming leaves is trimmed. -/
theorem trim_trim (text : List Char) : trim (trim text) = trim text :=
  trim_eq_self (fun _ => head_trim) (fun _ => getLast_trim)

/-- A trimmed text does not begin with a blank character. -/
theorem head_of_trim_eq {text : List Char} {c : Char} (h : trim text = text) (hc : c ∈ text.head?) :
    isBlank c = false := head_trim (by rwa [h])

/-- A trimmed text does not end with a blank character. -/
theorem getLast_of_trim_eq {text : List Char} {c : Char} (h : trim text = text)
    (hc : c ∈ text.getLast?) : isBlank c = false := getLast_trim (by rwa [h])

/-- A space before a text is trimmed away. -/
theorem trim_space_cons (text : List Char) : trim (' ' :: text) = trim text := by
  rw [trim, trim]
  exact congrArg trimEnd (List.dropWhile_cons_of_pos (by decide))

end Text

/-- No character of an identifier and no star is blank. -/
theorem isBlank_of_isIdentifierChar {c : Char} (h : isIdentifierChar c = true) :
    Text.isBlank c = false := by
  simp only [isIdentifierChar, Bool.or_eq_true, beq_iff_eq] at h
  rcases h with ((h | rfl) | rfl) | rfl
  · exact Text.isBlank_of_isAlphanumeric h
  · decide
  · decide
  · decide

end Interception
