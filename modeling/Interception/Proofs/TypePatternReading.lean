import Interception.Proofs.TypePatternText

/-!
# Reading type patterns from their texts

Segments with legal globs, no two `..` of which stand side by side, are read back from their text. The
invariant is that the segments that are done, together with the one being read, are the first ones and
what is still to be read is the text of the others. Conversely reading never yields two `..` in a row.
-/

namespace Interception

namespace Segment

/-- No two `..` stand side by side. -/
def ManyApart (segments : List Segment) : Prop := ¬ [many, many] <:+: segments

/-- No segments have no two `..` side by side. -/
theorem manyApart_nil : ManyApart [] := by
  intro h
  simp at h

/-- Segments in which no two `..` stand side by side go on after a `..` with a glob. -/
theorem ManyApart.getLast {first rest : List Segment} (h : ManyApart (first ++ many :: rest)) :
    first.getLast? ≠ some many := by
  intro hlast
  obtain ⟨before, rfl⟩ := List.getLast?_eq_some_iff.mp hlast
  exact h ⟨before, rest, by simp⟩

/-- A `..` may follow segments that do not end with one. -/
theorem ManyApart.append_many {segments : List Segment} (h : ManyApart segments)
    (hlast : segments.getLast? ≠ some many) : ManyApart (segments ++ [many]) := by
  intro hpair
  obtain hsuffix | hinfix := List.infix_concat_iff.mp hpair
  · obtain ⟨before, hbefore⟩ := hsuffix
    have hsplit : (before ++ [many]) ++ [many] = segments ++ [many] := by simpa using hbefore
    exact hlast (by simp [← List.append_cancel_right hsplit])
  · exact h hinfix

/-- A glob may follow any segments. -/
theorem ManyApart.append_one {segments : List Segment} (h : ManyApart segments) (glob : Glob) :
    ManyApart (segments ++ [one glob]) := by
  intro hpair
  obtain hsuffix | hinfix := List.infix_concat_iff.mp hpair
  · obtain ⟨before, hbefore⟩ := hsuffix
    have hlast := congrArg List.getLast? hbefore
    simp at hlast
  · exact h hinfix

end Segment

namespace TypePattern

/-- The characters of identifiers are other than a dot. -/
theorem ne_dot_of_isIdentifierChar {c : Char} (h : isIdentifierChar c = true) : c ≠ '.' := by
  rintro rfl
  rw [isIdentifierChar_dot] at h
  exact Bool.false_ne_true h

/-- The globs of the later segments are legal if all are. -/
theorem GlobsLegal.tail {segment : Segment} {rest : List Segment} (h : GlobsLegal (segment :: rest)) :
    GlobsLegal rest := fun glob hm => h glob (List.mem_cons_of_mem _ hm)

/-- The characters of a glob are read one after the other. -/
theorem readSegments_identifier (done : List Segment) (current chars rest : List Char)
    (afterDot : Bool) (hn : chars ≠ []) (hc : ∀ c ∈ chars, isIdentifierChar c = true) :
    readSegments done current afterDot (chars ++ rest) =
      readSegments done (current ++ chars) false rest := by
  induction chars generalizing current afterDot with
  | nil => exact absurd rfl hn
  | cons c chars ih =>
    have hfirst := hc c List.mem_cons_self
    have hdot := ne_dot_of_isIdentifierChar hfirst
    have hstep : readSegments done current afterDot (c :: (chars ++ rest)) =
        readSegments done (current ++ [c]) false (chars ++ rest) := by
      rw [readSegments.eq_def]
      simp [hdot, hfirst]
    rw [List.cons_append, hstep]
    cases chars with
    | nil => rfl
    | cons d chars =>
      rw [ih (current ++ [c]) false (List.cons_ne_nil _ _) fun e he => hc e (List.mem_cons_of_mem _ he),
        List.append_assoc]
      rfl

/-- Where a single dot stands before a character of an identifier, it ends the segment. -/
theorem readSegments_dot (done : List Segment) (current chars rest : List Char)
    (hcurrent : current ≠ []) (hn : chars ≠ []) (hc : ∀ c ∈ chars, isIdentifierChar c = true) :
    readSegments done current false ('.' :: (chars ++ rest)) =
      readSegments (closeSegment done current) chars false rest := by
  have hnext := readSegments_identifier (closeSegment done current) [] chars rest true hn hc
  rw [List.nil_append] at hnext
  rw [← hnext]
  cases chars with
  | nil => exact absurd rfl hn
  | cons c chars =>
    have hdot := ne_dot_of_isIdentifierChar (hc c List.mem_cons_self)
    rw [List.cons_append, readSegments.eq_def]
    simp [hdot, hcurrent]

/-- A `..` ends the segment and is read as one. -/
theorem readSegments_many (done : List Segment) (current rest : List Char)
    (hlast : (closeSegment done current).getLast? ≠ some .many) :
    readSegments done current false ('.' :: '.' :: rest) =
      readSegments (closeSegment done current ++ [.many]) [] false rest := by
  rw [readSegments]
  simp [hlast]

/-- What is still to be read is the text of further segments: they are read after those that are done and
the one being read. -/
theorem readSegments_renderFrom (done segments : List Segment) (current : List Char)
    (hglobs : GlobsLegal segments) (hn : closeSegment done current ++ segments ≠ [])
    (hapart : Segment.ManyApart (closeSegment done current ++ segments)) :
    readSegments done current false (renderFrom (!current.isEmpty) segments) =
      .ok (closeSegment done current ++ segments) := by
  induction segments generalizing done current with
  | nil =>
    rw [List.append_nil] at hn ⊢
    simp [renderFrom, readSegments, hn]
  | cons segment rest ih =>
    cases segment with
    | many =>
      rw [renderFrom, readSegments_many _ _ _ hapart.getLast]
      have hnext := ih (closeSegment done current ++ [.many]) [] hglobs.tail (by simp [closeSegment])
        (by simpa [closeSegment] using hapart)
      simpa [closeSegment] using hnext
    | one glob =>
      obtain ⟨hchars, hidentifier⟩ := hglobs glob List.mem_cons_self
      have hclosed := @closeSegment_of_ne_nil (closeSegment done current) glob.chars hchars
      have hnext := ih (closeSegment done current) glob.chars hglobs.tail (by simp [hclosed])
        (by simpa [hclosed] using hapart)
      rw [hclosed] at hnext
      have hopen : (!glob.chars.isEmpty) = true := by simpa using hchars
      rw [hopen] at hnext
      have hgoal : readSegments done current false (renderFrom (!current.isEmpty) (.one glob :: rest)) =
          readSegments (closeSegment done current) glob.chars false (renderFrom true rest) := by
        by_cases hcurrent : current = []
        · subst hcurrent
          rw [renderFrom, List.isEmpty_nil]
          exact readSegments_identifier done [] glob.chars (renderFrom true rest) false hchars
            hidentifier
        · have hbegun : (!current.isEmpty) = true := by simpa using hcurrent
          rw [renderFrom, hbegun]
          exact readSegments_dot done current glob.chars (renderFrom true rest) hcurrent hchars
            hidentifier
      rw [hgoal, hnext, List.append_assoc]
      rfl

/-- Segments with legal globs, no two `..` of which stand side by side, are read back from their text. -/
theorem readSegments_render {segments : List Segment} (hglobs : GlobsLegal segments)
    (hn : segments ≠ []) (hapart : Segment.ManyApart segments) :
    readSegments [] [] false (render segments) = .ok segments :=
  readSegments_renderFrom [] segments [] hglobs hn hapart

/-- Ending a segment keeps `..` apart. -/
theorem manyApart_closeSegment {done : List Segment} (h : Segment.ManyApart done)
    (current : List Char) : Segment.ManyApart (closeSegment done current) := by
  by_cases hn : current = []
  · simpa [closeSegment, hn] using h
  · rw [closeSegment_of_ne_nil hn]
    exact h.append_one ⟨current⟩

/-- Reading never yields two `..` side by side. -/
theorem manyApart_of_readSegments {done segments : List Segment} {current chars : List Char}
    {afterDot : Bool} (hdone : Segment.ManyApart done)
    (hread : readSegments done current afterDot chars = .ok segments) :
    Segment.ManyApart segments := by
  have hclosed := manyApart_closeSegment hdone current
  fun_induction readSegments done current afterDot chars with
  | case1 => cases hread
  | case2 => cases hread
  | case3 =>
    rw [← Except.ok.inj hread]
    exact hclosed
  | case4 => cases hread
  | case5 => cases hread
  | case6 done current afterDot rest _ closed hlast ih =>
    have hmany := hclosed.append_many hlast
    exact ih hmany hread (manyApart_closeSegment hmany [])
  | case7 => cases hread
  | case8 done current afterDot rest _ _ ih =>
    exact ih hclosed hread (manyApart_closeSegment hclosed [])
  | case9 done current afterDot c rest _ _ _ ih =>
    exact ih hdone hread (manyApart_closeSegment hdone _)
  | case10 => cases hread

/-- No two `..` of a pattern that was read stand side by side. -/
theorem IsParsed.manyApart {pattern : TypePattern} (h : pattern.IsParsed) :
    Segment.ManyApart pattern.segments := by
  obtain ⟨text, hparse⟩ := h
  rw [parse] at hparse
  split at hparse
  · rename_i segments hread
    cases hparse
    exact manyApart_of_readSegments Segment.manyApart_nil hread
  · cases hparse

/-- The characters of a text of segments are dots and characters of identifiers. -/
theorem renderFrom_chars {segments : List Segment} {c : Char} (afterGlob : Bool)
    (hglobs : GlobsLegal segments) (hc : c ∈ renderFrom afterGlob segments) :
    c = '.' ∨ isIdentifierChar c = true := by
  induction segments generalizing afterGlob with
  | nil => exact absurd hc List.not_mem_nil
  | cons segment rest ih =>
    cases segment with
    | many =>
      simp only [renderFrom, List.mem_cons] at hc
      obtain hdot | hdot | hc := hc
      · exact .inl hdot
      · exact .inl hdot
      · exact ih false hglobs.tail hc
    | one glob =>
      simp only [renderFrom, List.mem_append] at hc
      obtain (hdot | hglob) | hc := hc
      · cases afterGlob with
        | false => exact absurd hdot List.not_mem_nil
        | true => exact .inl (List.mem_singleton.mp hdot)
      · exact .inr ((hglobs glob List.mem_cons_self).2 c hglob)
      · exact ih true hglobs.tail hc

/-- The text of segments ends with a character other than a dot if a glob stands last, and with two dots
if `..` does. -/
theorem render_ending {segments : List Segment} (hn : segments ≠ []) (hglobs : GlobsLegal segments) :
    (endsWithGlob false segments = true ∧ (render segments).getLast? ≠ some '.') ∨
      (endsWithGlob false segments = false ∧ ∃ before, render segments = before ++ ['.', '.']) := by
  obtain rfl | ⟨first, last, rfl⟩ := List.eq_nil_or_concat segments
  · exact absurd rfl hn
  · rw [List.concat_eq_append, endsWithGlob_append]
    cases last with
    | many => exact .inr ⟨rfl, render first, render_append_many first⟩
    | one glob =>
      obtain ⟨hchars, hidentifier⟩ := hglobs glob (by simp)
      refine .inl ⟨rfl, fun hlast => ?_⟩
      rw [render_append_one, List.getLast?_append, List.getLast?_append] at hlast
      obtain ⟨c, hc⟩ := Option.ne_none_iff_exists'.mp (mt List.getLast?_eq_none_iff.mp hchars)
      rw [hc] at hlast
      cases hlast
      exact ne_dot_of_isIdentifierChar (hidentifier '.' (List.mem_of_mem_getLast? hc)) rfl

end TypePattern

end Interception
