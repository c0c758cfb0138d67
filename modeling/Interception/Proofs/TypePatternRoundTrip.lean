import Interception.Error
import Interception.Proofs.PointcutText
import Mathlib.Data.Set.Function

/-!
# Type patterns and their texts, one to one

The texts of type patterns and the lists of segments that a type pattern may have stand for each other: every
list has one text, which is read as that list, and every text that is read is the text of the list. The reader
looks one character ahead, so that after a single dot it never comes to a `..`: had another dot followed, the
two would have been read together. So one of the faults that it can report is never found.
-/

namespace Interception.TypePattern

/-- The segments that a type pattern may have. -/
structure Legal (segments : List Segment) : Prop where
  /-- There are segments. -/
  ne_nil : segments ≠ []
  /-- Every glob has at least one character, and only characters of identifiers and stars. -/
  globs : GlobsLegal segments
  /-- No two `..` stand side by side. -/
  apart : Segment.ManyApart segments

/-- A pattern that was read has segments that a type pattern may have. -/
theorem IsParsed.legal {pattern : TypePattern} (h : pattern.IsParsed) : Legal pattern.segments :=
  ⟨h.sound.2.1, h.sound.1, h.manyApart⟩

/-- The text of a pattern is the one that it was read from, without its blank ends. -/
theorem text_of_parse {text : List Char} {pattern : TypePattern} (h : parse text = .ok pattern) :
    pattern.text = String.ofList (Text.trim text) := by
  rw [parse] at h
  split at h
  · cases h
    rfl
  · cases h

/-- The text of segments that a type pattern may have has no blank ends. -/
theorem Legal.trim_render {segments : List Segment} (h : Legal segments) :
    Text.trim (render segments) = render segments :=
  Text.trim_of_forall fun _ hc => Pointcut.isBlank_of_mem_render h.globs hc

/-- A text is read as segments exactly if they may be those of a type pattern and the text is theirs. -/
theorem parse_eq_ok_iff {text : List Char} {pattern : TypePattern} :
    parse text = .ok pattern ↔ Legal pattern.segments ∧ render pattern.segments = Text.trim text ∧
      pattern.text = String.ofList (Text.trim text) := by
  constructor
  · intro h
    have hparsed : pattern.IsParsed := ⟨text, h⟩
    have htext := text_of_parse h
    refine ⟨hparsed.legal, ?_, htext⟩
    rw [hparsed.sound.2.2, htext, String.toList_ofList]
  · rintro ⟨hlegal, hrender, htext⟩
    have hread := Pointcut.parse_render hlegal.ne_nil hlegal.globs hlegal.apart
    rw [parse, hlegal.trim_render, hrender] at hread
    rw [parse, hread, ← htext]

/-- After a single dot no other dot is still to be read, so a `..` never stands where a segment has to. -/
theorem readSegments_ne_missingSegment {done : List Segment} {current chars : List Char} {afterDot : Bool}
    (h : afterDot = true → chars.head? ≠ some '.') :
    readSegments done current afterDot chars ≠ .error .missingSegment := by
  fun_induction readSegments done current afterDot chars with
  | case1 => simp
  | case2 => simp
  | case3 => simp
  | case4 done current afterDot rest hwaits =>
    have hdot : afterDot = true := by simp_all
    exact absurd rfl (h hdot)
  | case5 => simp
  | case6 done current afterDot rest hwaits closed hlast ih => exact ih fun hdot => Bool.noConfusion hdot
  | case7 => simp
  | case8 done current afterDot rest hsingle hcurrent ih =>
    refine ih fun _ hnext => ?_
    obtain ⟨tail, rfl⟩ := List.head?_eq_some_iff.mp hnext
    exact hsingle tail rfl
  | case9 done current afterDot c rest _ _ hidentifier ih => exact ih fun hdot => Bool.noConfusion hdot
  | case10 => simp

/-- A text that is not read is refused with its blank ends cut off, and never because a `..` stands where a segment
has to. -/
theorem parse_eq_ok_or_refused (text : List Char) : (∃ pattern, parse text = .ok pattern) ∨
    ∃ fault, parse text = .error (String.ofList (Text.trim text), fault) ∧ fault ≠ .missingSegment := by
  have hnever : readSegments [] [] false (Text.trim text) ≠ .error .missingSegment :=
    readSegments_ne_missingSegment fun hdot => Bool.noConfusion hdot
  rw [parse]
  cases hread : readSegments [] [] false (Text.trim text) with
  | ok segments => exact .inl ⟨_, rfl⟩
  | error fault =>
    refine .inr ⟨fault, rfl, ?_⟩
    rintro rfl
    exact hnever hread

/-- Segments that a type pattern may have are known by their text. -/
theorem Legal.eq_of_render_eq {first second : List Segment} (hfirst : Legal first) (hsecond : Legal second)
    (h : render first = render second) : first = second := by
  have hread := Pointcut.parse_render hfirst.ne_nil hfirst.globs hfirst.apart
  rw [h, Pointcut.parse_render hsecond.ne_nil hsecond.globs hsecond.apart] at hread
  exact (congrArg TypePattern.segments (Except.ok.inj hread)).symm

/-- A text is read as a type pattern exactly if without its blank ends it is the text of segments that a type
pattern may have. The pattern has these segments and that text. So lists of such segments and texts that are
read, without blank ends, stand for each other one to one. Every other text is refused as a wrong configuration
that names the text without its blank ends, and it is never said that a segment is missing after a dot. -/
theorem parse_bijective :
    (∀ text pattern, parse text = .ok pattern ↔ Legal pattern.segments ∧
        render pattern.segments = Text.trim text ∧ pattern.text = String.ofList (Text.trim text)) ∧
      Set.BijOn render {segments | Legal segments}
        {text | Text.trim text = text ∧ ∃ pattern, parse text = .ok pattern} ∧
      (∀ text, (¬ ∃ segments, Legal segments ∧ render segments = Text.trim text) ↔
        ∃ fault, (parse text).mapError AopError.ofTypePatternFault =
          .error (.configuration (.typePattern (String.ofList (Text.trim text)) fault))) ∧
      ∀ text shown, parse text ≠ .error (shown, .missingSegment) := by
  refine ⟨fun text pattern => parse_eq_ok_iff, ⟨?_, ?_, ?_⟩, fun text => ⟨fun hnone => ?_, ?_⟩,
    fun text shown hrefused => ?_⟩
  · intro segments hlegal
    exact ⟨hlegal.trim_render, _, Pointcut.parse_render hlegal.ne_nil hlegal.globs hlegal.apart⟩
  · intro first hfirst second hsecond heq
    exact Legal.eq_of_render_eq hfirst hsecond heq
  · rintro text ⟨htrim, pattern, hparse⟩
    obtain ⟨hlegal, hrender, -⟩ := parse_eq_ok_iff.mp hparse
    exact ⟨pattern.segments, hlegal, hrender.trans htrim⟩
  · obtain ⟨pattern, hparse⟩ | ⟨fault, hparse, -⟩ := parse_eq_ok_or_refused text
    · obtain ⟨hlegal, hrender, -⟩ := parse_eq_ok_iff.mp hparse
      exact absurd ⟨_, hlegal, hrender⟩ hnone
    · exact ⟨fault, by rw [hparse]; rfl⟩
  · rintro ⟨fault, hrefused⟩ ⟨segments, hlegal, hrender⟩
    have hparse : parse text = .ok ⟨String.ofList (Text.trim text), segments⟩ :=
      parse_eq_ok_iff.mpr ⟨hlegal, hrender, rfl⟩
    rw [hparse] at hrefused
    cases hrefused
  · obtain ⟨pattern, hparse⟩ | ⟨fault, hparse, hfault⟩ := parse_eq_ok_or_refused text
    · rw [hparse] at hrefused
      cases hrefused
    · rw [hparse] at hrefused
      cases hrefused
      exact hfault rfl

/-- Of three dots the first two are read as `..`, so the third one ends a segment without characters. -/
example : parse "a...b".toList = .error ("a...b", .emptySegment) := rfl

end Interception.TypePattern
