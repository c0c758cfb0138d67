import Interception.Pointcut
import Interception.Proofs.TypePatternText
import Mathlib.Data.List.Forall2

/-!
# What pointcuts select

A glob stands for the texts that it becomes when each of its stars is replaced by a text, which may be empty
and may differ from star to star. A list of segments stands for the sequences that fall into consecutive
pieces, one for each segment in order: any number of whole parts for `..`, and a single part for a glob. A
declaring type is such a sequence after it was split at its dots, and so are the parameter types.

What a pointcut accepts is described here in these words alone, without the order in which its matcher tries
the possibilities. The description holds of every signature, whatever characters its texts consist of.
-/

namespace Interception

namespace Glob

/-- The pattern with texts in place of its stars, from the first star to the last. -/
def fill : (pattern : List Char) → (fillings : List (List Char)) → List Char
  | [], _ => []
  | c :: pattern, fillings =>
    if c = '*' then fillings.headD [] ++ fill pattern fillings.tail else c :: fill pattern fillings

/-- The pattern becomes the text when each of its stars is replaced by some text. -/
def Yields (pattern text : List Char) : Prop :=
  ∃ fillings : List (List Char), fillings.length = pattern.count '*' ∧ fill pattern fillings = text

@[simp] theorem fill_star (pattern covered : List Char) (fillings : List (List Char)) :
    fill ('*' :: pattern) (covered :: fillings) = covered ++ fill pattern fillings := rfl

theorem fill_char {c : Char} (hc : c ≠ '*') (pattern : List Char) (fillings : List (List Char)) :
    fill (c :: pattern) fillings = c :: fill pattern fillings := if_neg hc

/-- A leading star is replaced by some text, and the rest of the pattern becomes what follows it. -/
theorem yields_star_iff {pattern text : List Char} :
    Yields ('*' :: pattern) text ↔ ∃ covered rest, text = covered ++ rest ∧ Yields pattern rest := by
  constructor
  · rintro ⟨fillings, hlength, rfl⟩
    rw [List.count_cons_self] at hlength
    cases fillings with
    | nil => exact absurd hlength.symm (Nat.succ_ne_zero _)
    | cons covered fillings =>
      have hrest : fillings.length = pattern.count '*' := Nat.succ.inj hlength
      exact ⟨covered, fill pattern fillings, fill_star pattern covered fillings, fillings, hrest, rfl⟩
  · rintro ⟨covered, _, rfl, fillings, hlength, rfl⟩
    refine ⟨covered :: fillings, ?_, fill_star pattern covered fillings⟩
    rw [List.count_cons_self, List.length_cons, hlength]

/-- A leading character other than a star stays, and the rest of the pattern becomes what follows it. -/
theorem yields_char_iff {c : Char} {pattern text : List Char} (hc : c ≠ '*') :
    Yields (c :: pattern) text ↔ ∃ rest, text = c :: rest ∧ Yields pattern rest := by
  have hcount : (c :: pattern).count '*' = pattern.count '*' := List.count_cons_of_ne hc
  constructor
  · rintro ⟨fillings, hlength, rfl⟩
    rw [hcount] at hlength
    exact ⟨fill pattern fillings, fill_char hc pattern fillings, fillings, hlength, rfl⟩
  · rintro ⟨_, rfl, fillings, hlength, rfl⟩
    exact ⟨fillings, hlength.trans hcount.symm, fill_char hc pattern fillings⟩

/-- The texts that fit a pattern are those that it becomes when its stars are replaced. -/
theorem fits_iff_yields {pattern text : List Char} : Fits pattern text ↔ Yields pattern text := by
  induction pattern generalizing text with
  | nil =>
    rw [fits_nil_iff]
    constructor
    · rintro rfl
      exact ⟨[], rfl, rfl⟩
    · rintro ⟨_, _, rfl⟩
      rfl
  | cons c pattern ih =>
    by_cases hc : c = '*'
    · subst hc
      simp only [fits_star_iff, yields_star_iff, ih]
    · simp only [fits_char_iff hc, yields_char_iff hc, ih]

end Glob

namespace Segment

/-- What a segment may take from a sequence: any number of parts for `..`, and for a glob one part that the
glob becomes when its stars are replaced. -/
def Takes : Segment → (piece : List (List Char)) → Prop
  | many, _ => True
  | one glob, piece => ∃ part, piece = [part] ∧ Glob.Yields glob.chars part

/-- The segments cover the sequences that fall into pieces of which each segment takes one, in order. -/
theorem covers_iff_exists_pieces {segments : List Segment} {parts : List (List Char)} :
    Covers segments parts ↔ ∃ pieces : List (List (List Char)),
      pieces.flatten = parts ∧ List.Forall₂ Takes segments pieces := by
  constructor
  · intro h
    induction h with
    | nil => exact ⟨[], rfl, .nil⟩
    | many piece _ ih =>
      obtain ⟨pieces, rfl, htakes⟩ := ih
      exact ⟨piece :: pieces, rfl, .cons trivial htakes⟩
    | one hfits _ ih =>
      obtain ⟨pieces, rfl, htakes⟩ := ih
      exact ⟨[_] :: pieces, rfl, .cons ⟨_, rfl, Glob.fits_iff_yields.mp hfits⟩ htakes⟩
  · rintro ⟨pieces, rfl, htakes⟩
    induction htakes with
    | nil => exact .nil
    | @cons segment piece _ _ htake _ ih =>
      cases segment with
      | many => exact .many piece ih
      | one glob =>
        obtain ⟨part, rfl, hyields⟩ := htake
        exact .one (Glob.fits_iff_yields.mpr hyields) ih

end Segment

/-- The parts of a dotted name are what splitting it at the dots gives. -/
theorem TypePattern.nameParts_eq_splitOn (name : List Char) : nameParts name = name.splitOn '.' := by
  induction name with
  | nil => rfl
  | cons c rest ih =>
    have hsplit : (c :: rest).splitOn '.' =
        if c == '.' then [] :: rest.splitOn '.' else (rest.splitOn '.').modifyHead (c :: ·) :=
      List.splitOnP_cons_eq_if_modifyHead c rest
    rw [hsplit, nameParts, ← ih]
    cases hparts : nameParts rest with
    | nil => exact absurd hparts (nameParts_ne_nil rest)
    | cons part parts => simp only [beq_iff_eq, List.modifyHead_cons]

namespace Pointcut

/-- A pointcut accepts a signature exactly if its globs for result type and method become the result type and
the method's name when their stars are replaced, and if the parts of the declaring type, and likewise the
parameter types, fall into consecutive pieces of which each element of their pattern takes one, in order. -/
theorem accepts_iff_exists_pieces (pointcut : Pointcut) (signature : CallSignature) :
    pointcut.accepts signature = true ↔
      Glob.Yields pointcut.returnPattern.chars signature.method.returnType.toList ∧
      Glob.Yields pointcut.methodPattern.chars signature.method.name.toList ∧
      (∃ pieces : List (List (List Char)), pieces.flatten = signature.declaringType.toList.splitOn '.' ∧
        List.Forall₂ Segment.Takes pointcut.typePattern.segments pieces) ∧
      ∃ pieces : List (List (List Char)), pieces.flatten = signature.method.params.map String.toList ∧
        List.Forall₂ Segment.Takes pointcut.argsPattern pieces := by
  have hreturn := Glob.accepts_iff pointcut.returnPattern signature.method.returnType.toList
  have hmethod := Glob.accepts_iff pointcut.methodPattern signature.method.name.toList
  have htype := TypePattern.accepts_iff pointcut.typePattern signature.declaringType
  have hargs := Segment.coverAll_iff pointcut.argsPattern (signature.method.params.map String.toList)
  rw [TypePattern.nameParts_eq_splitOn] at htype
  unfold accepts
  simp only [Bool.and_eq_true, and_assoc, hreturn, hmethod, htype, hargs, Glob.fits_iff_yields,
    Segment.covers_iff_exists_pieces]

end Pointcut

end Interception
