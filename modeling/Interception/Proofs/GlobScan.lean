import Interception.Proofs.PointcutMeaning

/-!
# Matching a glob by places

A match can be kept as a few places: where pattern and text are compared, where the star seen last stands, and
the mark, up to which that star covers the text. Each round looks at one character of either side. It moves
both places on, passes a star, or goes back to the star seen last, which then covers one character more. When
the text is used up, only stars may be left of the pattern.

Going back moves both places backwards, so neither of them shows that the rounds come to an end. But the mark
never moves backwards, and while it stays the place in the pattern moves forwards. What remains to be
decided is the same question before and after each round, so the verdict is that of trying every way to
divide the text among the stars.
-/

namespace Interception.Glob

/-- How far a match by places has come. -/
structure Scan where
  /-- The place in the pattern. -/
  inPattern : Nat
  /-- The place in the text. -/
  inText : Nat
  /-- The place in the pattern of the star seen last, if one was seen. -/
  star? : Option Nat
  /-- The place in the text up to which that star covers it. -/
  mark : Nat

/-- What one round comes to. -/
inductive Round where
  /-- The match goes on. -/
  | goesOn (next : Scan)
  /-- The match is over. -/
  | ends (verdict : Bool)

namespace Scan

/-- A match at its beginning. -/
def start : Scan := ⟨0, 0, none, 0⟩

/-- One round. Stars are looked for first, and a star that is left when the text is used up is passed. -/
def round (pattern text : List Char) (scan : Scan) : Round :=
  match text[scan.inText]? with
  | none =>
    if pattern[scan.inPattern]? = some '*' then .goesOn { scan with inPattern := scan.inPattern + 1 }
    else .ends (scan.inPattern == pattern.length)
  | some c =>
    if pattern[scan.inPattern]? = some '*' then
      .goesOn ⟨scan.inPattern + 1, scan.inText, some scan.inPattern, scan.inText⟩
    else if pattern[scan.inPattern]? = some c then
      .goesOn { scan with inPattern := scan.inPattern + 1, inText := scan.inText + 1 }
    else
      match scan.star? with
      | some star => .goesOn ⟨star + 1, scan.mark + 1, some star, scan.mark + 1⟩
      | none => .ends false

/-- The verdict of a match that is over after at most the given number of rounds. -/
def verdict? (pattern text : List Char) : (rounds : Nat) → Scan → Option Bool
  | 0, _ => none
  | rounds + 1, scan =>
    match scan.round pattern text with
    | .goesOn next => verdict? pattern text rounds next
    | .ends verdict => some verdict

/-- A bound on the rounds that are left. The text from the mark on has as many characters that the star may
still come to cover, and for each of them the pattern is run through at most once. -/
def roundsLeft (pattern text : List Char) (scan : Scan) : Nat :=
  (text.length - scan.mark) * (pattern.length + 1) + (pattern.length - scan.inPattern)

/-- Where a match stands on its way through pattern and text, and what remains to be decided there. -/
inductive Stands (pattern text : List Char) : Scan → Prop where
  /-- No star was seen, and both sides begin with the same literal text. -/
  | literal (literal rest left : List Char) : '*' ∉ literal →
    pattern = literal ++ rest → text = literal ++ left →
    Stands pattern text ⟨literal.length, literal.length, none, 0⟩
  /-- A star was seen, and what follows it begins with the same literal text as what follows the mark. -/
  | afterStar (front covered literal rest left : List Char) : '*' ∉ literal →
    pattern = front ++ '*' :: (literal ++ rest) → text = covered ++ (literal ++ left) →
    (Fits pattern text ↔ Fits ('*' :: (literal ++ rest)) (literal ++ left)) →
    Stands pattern text ⟨front.length + 1 + literal.length, covered.length + literal.length,
      some front.length, covered.length⟩
  /-- The text is used up. -/
  | usedUp (front rest : List Char) (star? : Option Nat) (mark : Nat) :
    pattern = front ++ rest → (Fits pattern text ↔ Fits rest []) →
    Stands pattern text ⟨front.length, text.length, star?, mark⟩

/-- A round went well: it leads to where a match may stand, with fewer rounds left, or it ends the match with the
right verdict. -/
inductive RoundHolds (pattern text : List Char) (scan : Scan) : Round → Prop where
  /-- The match goes on. -/
  | goesOn {next : Scan} : Stands pattern text next →
    next.roundsLeft pattern text < scan.roundsLeft pattern text → RoundHolds pattern text scan (.goesOn next)
  /-- The match is over. -/
  | ends {verdict : Bool} : (verdict = true ↔ Fits pattern text) → RoundHolds pattern text scan (.ends verdict)

variable {pattern text : List Char} {scan : Scan}

/-- A match begins with no literal text. -/
theorem stands_start : Stands pattern text start :=
  .literal [] pattern text List.not_mem_nil rfl rfl

/-- The character at the end of the first part of a text is the first of the second part. -/
theorem getElem?_length_append (first second : List Char) :
    (first ++ second)[first.length]? = second.head? := by
  rw [List.getElem?_append_right (Nat.le_refl _), Nat.sub_self, List.head?_eq_getElem?]

/-- Where the text is used up, it no longer matters how the match came there. -/
theorem Stands.usedUp_of_length (h : Stands pattern text scan) (hlength : text.length ≤ scan.inText) :
    ∃ front rest star? mark, scan = ⟨List.length front, text.length, star?, mark⟩ ∧ pattern = front ++ rest ∧
      (Fits pattern text ↔ Fits rest []) := by
  cases h with
  | literal literal rest left hl hpattern htext =>
    have hleft : left = [] := by
      have hlonger : text.length = literal.length + left.length := by rw [htext, List.length_append]
      have hused : text.length ≤ literal.length := hlength
      exact List.length_eq_zero_iff.mp (by omega)
    rw [hleft, List.append_nil] at htext
    refine ⟨literal, rest, none, 0, by rw [htext], hpattern, ?_⟩
    rw [hpattern, htext]
    exact fits_literal_end_iff hl
  | afterStar front covered literal rest left hl hpattern htext hfits =>
    have hleft : left = [] := by
      have hlonger : text.length = covered.length + (literal.length + left.length) := by
        rw [htext, List.length_append, List.length_append]
      have hused : text.length ≤ covered.length + literal.length := hlength
      exact List.length_eq_zero_iff.mp (by omega)
    rw [hleft, List.append_nil] at htext hfits
    refine ⟨front ++ '*' :: literal, rest, some front.length, covered.length, ?_, ?_, ?_⟩
    · rw [htext]
      simp only [List.length_append, List.length_cons, Nat.add_assoc, Nat.add_comm 1]
    · rw [hpattern, List.append_assoc, List.cons_append]
    · rw [hfits]
      exact fits_star_literal_end_iff hl
  | usedUp front rest star? mark hpattern hfits => exact ⟨front, rest, star?, mark, rfl, hpattern, hfits⟩

/-- When the text is used up, stars are passed, and the pattern has to end behind them. -/
theorem round_of_usedUp (h : Stands pattern text scan) (hlength : text.length ≤ scan.inText) :
    RoundHolds pattern text scan (scan.round pattern text) := by
  obtain ⟨front, rest, star?, mark, rfl, hpattern, hfits⟩ := h.usedUp_of_length hlength
  have hnext : pattern[front.length]? = rest.head? := by
    rw [hpattern]
    exact getElem?_length_append front rest
  have hend : text[text.length]? = none := List.getElem?_eq_none (Nat.le_refl _)
  unfold round
  simp only [hend, hnext]
  cases rest with
  | nil =>
    rw [List.append_nil] at hpattern
    refine .ends ?_
    rw [hfits, hpattern]
    exact iff_of_true (beq_self_eq_true _) .nil
  | cons d rest =>
    by_cases hd : d = '*'
    · subst hd
      have hpassed : pattern = (front ++ ['*']) ++ rest := by simp [hpattern]
      have hrest : Fits pattern text ↔ Fits rest [] := by
        rw [hfits, fits_empty_iff, fits_empty_iff]
        simp
      have hmore : front.length < pattern.length := by simp [hpattern]
      simp only [List.head?_cons, if_true]
      refine .goesOn (by simpa using Stands.usedUp (front ++ ['*']) rest star? mark hpassed hrest) ?_
      simp only [roundsLeft]
      omega
    · have hnever : ¬ Fits (d :: rest) [] := by simp [fits_char_iff hd]
      have hmore : front.length ≠ pattern.length := by simp [hpattern]
      simp only [List.head?_cons, Option.some.injEq, hd, if_false]
      exact .ends (iff_of_false (by simpa using hmore) (mt hfits.mp hnever))

/-- Before a star is seen, every character of the pattern has to stand in the text. -/
theorem round_of_literal {literal rest left : List Char} {c : Char} (hl : '*' ∉ literal)
    (hpattern : pattern = literal ++ rest) (htext : text = literal ++ c :: left) :
    RoundHolds pattern text ⟨literal.length, literal.length, none, 0⟩
      (round pattern text ⟨literal.length, literal.length, none, 0⟩) := by
  have hinPattern : pattern[literal.length]? = rest.head? := by
    rw [hpattern]
    exact getElem?_length_append literal rest
  have hinText : text[literal.length]? = some c := by
    rw [htext]
    exact getElem?_length_append literal (c :: left)
  have hshorter : literal.length < text.length := by simp [htext]
  unfold round
  simp only [hinText, hinPattern]
  by_cases hstar : rest.head? = some '*'
  · obtain ⟨rest, rfl⟩ := List.head?_eq_some_iff.mp hstar
    have hfits : Fits pattern text ↔ Fits ('*' :: rest) (c :: left) := by
      rw [hpattern, htext]
      exact fits_literal_append_iff hl
    have hmore : literal.length < pattern.length := by simp [hpattern]
    have hcovers : (text.length - literal.length) * (pattern.length + 1) ≤
        text.length * (pattern.length + 1) := Nat.mul_le_mul_right _ (Nat.sub_le _ _)
    rw [if_pos hstar]
    refine .goesOn (.afterStar literal literal [] rest (c :: left) List.not_mem_nil hpattern htext hfits) ?_
    simp only [roundsLeft, Nat.sub_zero]
    omega
  · rw [if_neg hstar]
    by_cases hchar : rest.head? = some c
    · obtain ⟨rest, rfl⟩ := List.head?_eq_some_iff.mp hchar
      have hc : '*' ∉ literal ++ [c] := star_not_mem_concat hl fun h => hstar (congrArg some h)
      have hmore : literal.length < pattern.length := by simp [hpattern]
      rw [if_pos hchar]
      refine .goesOn ?_ (by simp only [roundsLeft]; omega)
      simpa using Stands.literal (literal ++ [c]) rest left hc (by simp [hpattern]) (by simp [htext])
    · rw [if_neg hchar]
      refine .ends (iff_of_false Bool.false_ne_true ?_)
      rw [hpattern, htext]
      exact not_fits_of_mismatch hl hstar hchar

/-- A mismatch makes the star seen last cover one character more. -/
theorem holds_of_goingBack {front covered literal rest left : List Char} {c : Char} (hl : '*' ∉ literal)
    (hpattern : pattern = front ++ '*' :: (literal ++ rest)) (htext : text = covered ++ (literal ++ c :: left))
    (hfits : Fits pattern text ↔ Fits ('*' :: (literal ++ rest)) (literal ++ c :: left))
    (hstar : rest.head? ≠ some '*') (hchar : rest.head? ≠ some c) :
    RoundHolds pattern text
      ⟨front.length + 1 + literal.length, covered.length + literal.length, some front.length, covered.length⟩
      (.goesOn ⟨front.length + 1, covered.length + 1, some front.length, covered.length + 1⟩) := by
  obtain ⟨m, mark, hmark⟩ : ∃ m mark, literal ++ c :: left = m :: mark := List.exists_cons_of_ne_nil (by simp)
  have hmismatch : Fits pattern text ↔ Fits ('*' :: (literal ++ rest)) mark := by
    have hn := @not_fits_of_mismatch literal rest left c hl hstar hchar
    rw [hmark] at hn
    rw [hfits, hmark]
    exact fits_star_of_mismatch_iff hn
  have hstands := Stands.afterStar front (covered ++ [m]) [] (literal ++ rest) mark List.not_mem_nil hpattern
    (by simp [htext, hmark]) hmismatch
  have hlonger : covered.length < text.length := by simp [htext, hmark]
  -- The mark moves on by one character, which pays for running through the pattern once more.
  have hpaid : (text.length - (covered.length + 1)) * (pattern.length + 1) + (pattern.length + 1) =
      (text.length - covered.length) * (pattern.length + 1) := by
    rw [← Nat.succ_mul]
    congr 1
    omega
  refine .goesOn (by simpa using hstands) ?_
  simp only [roundsLeft]
  omega

/-- After a star, a second star takes its place, and a mismatch leads back to it. -/
theorem round_of_afterStar {front covered literal rest left : List Char} {c : Char} (hl : '*' ∉ literal)
    (hpattern : pattern = front ++ '*' :: (literal ++ rest)) (htext : text = covered ++ (literal ++ c :: left))
    (hfits : Fits pattern text ↔ Fits ('*' :: (literal ++ rest)) (literal ++ c :: left)) :
    let scan : Scan := ⟨front.length + 1 + literal.length, covered.length + literal.length,
      some front.length, covered.length⟩
    RoundHolds pattern text scan (scan.round pattern text) := by
  intro scan
  have hinPattern : pattern[front.length + 1 + literal.length]? = rest.head? := by
    have h := getElem?_length_append (front ++ '*' :: literal) rest
    simpa [hpattern, Nat.add_assoc, Nat.add_comm 1] using h
  have hinText : text[covered.length + literal.length]? = some c := by
    rw [htext, ← List.append_assoc, ← List.length_append]
    exact getElem?_length_append (covered ++ literal) (c :: left)
  have hlonger : text.length = covered.length + literal.length + left.length + 1 := by
    simp only [htext, List.length_append, List.length_cons]
    omega
  have hlength : pattern.length = front.length + 1 + literal.length + rest.length := by
    simp only [hpattern, List.length_append, List.length_cons]
    omega
  unfold round
  simp only [scan, hinText, hinPattern]
  by_cases hstar : rest.head? = some '*'
  · obtain ⟨rest, rfl⟩ := List.head?_eq_some_iff.mp hstar
    have hsecond : Fits pattern text ↔ Fits ('*' :: rest) (c :: left) := by
      rw [hfits]
      exact fits_second_star_iff hl
    have hstands := Stands.afterStar (front ++ '*' :: literal) (covered ++ literal) [] rest (c :: left)
      List.not_mem_nil (by simp [hpattern]) (by simp [htext]) hsecond
    have hcovers : (text.length - (covered.length + literal.length)) * (pattern.length + 1) ≤
        (text.length - covered.length) * (pattern.length + 1) :=
      Nat.mul_le_mul_right _ (by omega)
    rw [if_pos hstar]
    refine .goesOn (by simpa [Nat.add_assoc, Nat.add_comm 1] using hstands) ?_
    rw [List.length_cons] at hlength
    simp only [roundsLeft]
    omega
  · rw [if_neg hstar]
    by_cases hchar : rest.head? = some c
    · obtain ⟨rest, rfl⟩ := List.head?_eq_some_iff.mp hchar
      have hc : '*' ∉ literal ++ [c] := star_not_mem_concat hl fun h => hstar (congrArg some h)
      have hfits' : Fits pattern text ↔ Fits ('*' :: (literal ++ [c] ++ rest)) (literal ++ [c] ++ left) := by
        simpa using hfits
      have hstands := Stands.afterStar front covered (literal ++ [c]) rest left hc (by simpa using hpattern)
        (by simpa using htext) hfits'
      rw [if_pos hchar]
      refine .goesOn (by simpa [Nat.add_assoc] using hstands) ?_
      rw [List.length_cons] at hlength
      simp only [roundsLeft]
      omega
    · rw [if_neg hchar]
      exact holds_of_goingBack hl hpattern htext hfits hstar hchar

/-- Every round leads on with fewer rounds left, or ends the match with the right verdict. -/
theorem Stands.round (h : Stands pattern text scan) : RoundHolds pattern text scan (scan.round pattern text) := by
  obtain hused | hleft := Nat.lt_or_ge scan.inText text.length |>.symm
  · exact round_of_usedUp h hused
  · cases h with
    | literal literal rest left hl hpattern htext =>
      cases left with
      | nil => simp [htext] at hleft
      | cons c left => exact round_of_literal hl hpattern htext
    | afterStar front covered literal rest left hl hpattern htext hfits =>
      cases left with
      | nil => simp [htext] at hleft
      | cons c left => exact round_of_afterStar hl hpattern htext hfits
    | usedUp front rest star? mark => exact absurd hleft (Nat.lt_irrefl _)

/-- A match with enough rounds comes to the right verdict. -/
theorem Stands.verdict? (h : Stands pattern text scan) {rounds : Nat}
    (hrounds : scan.roundsLeft pattern text < rounds) :
    ∃ verdict, scan.verdict? pattern text rounds = some verdict ∧ (verdict = true ↔ Fits pattern text) := by
  induction rounds generalizing scan with
  | zero => exact absurd hrounds (Nat.not_lt_zero _)
  | succ rounds ih =>
    have hround := h.round
    unfold Scan.verdict?
    generalize scan.round pattern text = round at hround
    cases hround with
    | goesOn hnext hless => exact ih hnext (by omega)
    | ends hverdict => exact ⟨_, rfl, hverdict⟩

end Scan

/-- Whether the text can be divided among the stars, by trying every way to do so. -/
def divides : (pattern text : List Char) → Bool
  | [], text => text.isEmpty
  | c :: pattern, text =>
    if c = '*' then (List.range (text.length + 1)).any fun n => divides pattern (text.drop n)
    else
      match text with
      | [] => false
      | d :: text => c == d && divides pattern text

/-- Some way to divide a text is found exactly if the text fits. -/
theorem divides_iff (pattern text : List Char) : divides pattern text = true ↔ Fits pattern text := by
  induction pattern generalizing text with
  | nil => simp [divides, fits_nil_iff]
  | cons c pattern ih =>
    rw [divides.eq_def]
    by_cases hc : c = '*'
    · subst hc
      simp only [if_true, List.any_eq_true, List.mem_range, Nat.lt_succ_iff, ih, fits_star_iff]
      constructor
      · rintro ⟨n, _, h⟩
        exact ⟨text.take n, text.drop n, (List.take_append_drop n text).symm, h⟩
      · rintro ⟨covered, rest, rfl, h⟩
        exact ⟨covered.length, by simp, by rwa [List.drop_left]⟩
    · rw [fits_char_iff hc]
      cases text with
      | nil => simp [hc]
      | cons d text =>
        simp only [if_neg hc, Bool.and_eq_true, beq_iff_eq, ih, List.cons.injEq]
        constructor
        · rintro ⟨rfl, h⟩
          exact ⟨text, ⟨rfl, rfl⟩, h⟩
        · rintro ⟨rest, ⟨rfl, rfl⟩, h⟩
          exact ⟨rfl, h⟩

/-- A match by places is over after a number of rounds that the lengths of pattern and text bound, whatever
characters they consist of. Its verdict is that of the glob and that of trying every way to divide the text
among the stars: the text is the pattern with some text, which may be empty, in place of each star. -/
theorem scan_decides (pattern text : List Char) :
    ∃ verdict, Scan.start.verdict? pattern text ((text.length + 1) * (pattern.length + 1)) = some verdict ∧
      verdict = (Glob.mk pattern).accepts text ∧ verdict = divides pattern text ∧
      (verdict = true ↔ Yields pattern text) := by
  have hrounds : Scan.start.roundsLeft pattern text < (text.length + 1) * (pattern.length + 1) := by
    simp only [Scan.roundsLeft, Scan.start, Nat.sub_zero, Nat.succ_mul]
    omega
  obtain ⟨verdict, hverdict, hfits⟩ := Scan.stands_start.verdict? hrounds
  refine ⟨verdict, hverdict, ?_, ?_, hfits.trans fits_iff_yields⟩
  · exact Bool.eq_iff_iff.mpr (hfits.trans (accepts_iff ⟨pattern⟩ text).symm)
  · exact Bool.eq_iff_iff.mpr (hfits.trans (divides_iff pattern text).symm)

end Interception.Glob
