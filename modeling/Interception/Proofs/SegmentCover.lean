import Interception.Pattern.Segment
import Interception.Proofs.GlobFit

/-!
# Covering sequences of parts

A list of segments covers a sequence of parts when the parts can be cut into consecutive pieces, one for
each segment in order: any number of parts for `..`, and one part that fits for a glob. Trying every
number of parts for each `..` decides this relation. The two-sided walk decides whether two lists of
segments cover a common sequence, since a `..` that reaches less far than one on the other side can end
there, and a sequence that both cover can be built on the way back.
-/

namespace Interception.Segment

/-- The parts can be cut into consecutive pieces that fit the segments in order. -/
inductive Covers : (segments : List Segment) → (parts : List (List Char)) → Prop where
  /-- Nothing is left on either side. -/
  | nil : Covers [] []
  /-- A `..` takes any number of parts. -/
  | many (pieces : List (List Char)) {rest : List Segment} {parts : List (List Char)} :
    Covers rest parts → Covers (many :: rest) (pieces ++ parts)
  /-- A glob takes one part that fits. -/
  | one {glob : Glob} {part : List Char} {rest : List Segment} {parts : List (List Char)} :
    Glob.Fits glob.chars part → Covers rest parts → Covers (one glob :: rest) (part :: parts)

/-- No segments cover no parts. -/
theorem covers_nil_iff {parts : List (List Char)} : Covers [] parts ↔ parts = [] := by
  constructor
  · intro h
    cases h
    rfl
  · rintro rfl
    exact .nil

/-- A leading `..` takes some parts away and leaves the others to the remaining segments. -/
theorem covers_many_iff {rest : List Segment} {parts : List (List Char)} :
    Covers (many :: rest) parts ↔ ∃ pieces left, parts = pieces ++ left ∧ Covers rest left := by
  constructor
  · intro h
    cases h with
    | many pieces h => exact ⟨pieces, _, rfl, h⟩
  · rintro ⟨pieces, left, rfl, h⟩
    exact .many pieces h

/-- A leading glob takes the first part. -/
theorem covers_one_iff {glob : Glob} {rest : List Segment} {parts : List (List Char)} :
    Covers (one glob :: rest) parts ↔
      ∃ part left, parts = part :: left ∧ Glob.Fits glob.chars part ∧ Covers rest left := by
  constructor
  · intro h
    cases h with
    | one hp h => exact ⟨_, _, rfl, hp, h⟩
  · rintro ⟨part, left, rfl, hp, h⟩
    exact .one hp h

/-- Trying every number of parts for each `..` decides whether the segments cover the parts. -/
theorem coverAll_iff (segments : List Segment) (parts : List (List Char)) :
    coverAll segments parts = true ↔ Covers segments parts := by
  induction segments generalizing parts with
  | nil => rw [coverAll, List.isEmpty_iff, covers_nil_iff]
  | cons segment rest ih =>
    cases segment with
    | many =>
      rw [coverAll, covers_many_iff]
      simp only [List.any_eq_true, List.mem_range, ih]
      constructor
      · rintro ⟨n, _, h⟩
        exact ⟨parts.take n, parts.drop n, (List.take_append_drop n parts).symm, h⟩
      · rintro ⟨pieces, left, rfl, h⟩
        refine ⟨pieces.length, ?_, ?_⟩
        · rw [List.length_append]
          omega
        · rwa [List.drop_left]
    | one glob =>
      rw [covers_one_iff]
      cases parts with
      | nil => simp [coverAll]
      | cons part parts =>
        rw [coverAll, Bool.and_eq_true, Glob.accepts_iff, ih]
        constructor
        · rintro ⟨hp, h⟩
          exact ⟨part, parts, rfl, hp, h⟩
        · rintro ⟨part', left, he, hp, h⟩
          cases he
          exact ⟨hp, h⟩

/-- A leading `..` can take more parts. -/
theorem covers_absorb {rest : List Segment} {parts : List (List Char)}
    (h : Covers (many :: rest) parts) (more : List (List Char)) :
    Covers (many :: rest) (more ++ parts) := by
  obtain ⟨pieces, left, rfl, hleft⟩ := covers_many_iff.mp h
  rw [← List.append_assoc]
  exact .many (more ++ pieces) hleft

/-- When two lists of segments cover the same parts and one begins with `..`, they do so too after that
`..` has ended or after the first segment of the other list has been used up. -/
theorem common_step {segment : Segment} {a b : List Segment} {parts : List (List Char)}
    (ha : Covers (many :: a) parts) (hb : Covers (segment :: b) parts) :
    (∃ left, Covers a left ∧ Covers (segment :: b) left) ∨
      (∃ left, Covers (many :: a) left ∧ Covers b left) := by
  obtain ⟨pieces, left, rfl, hleft⟩ := covers_many_iff.mp ha
  cases segment with
  | many =>
    obtain ⟨pieces', left', he, hleft'⟩ := covers_many_iff.mp hb
    -- whichever `..` reaches less far is the one that can end
    rcases List.append_eq_append_iff.mp he with ⟨more, rfl, hmore⟩ | ⟨more, rfl, hmore⟩
    · exact .inl ⟨left, hleft, hmore ▸ .many more hleft'⟩
    · exact .inr ⟨left', hmore ▸ .many more hleft, hleft'⟩
  | one glob =>
    obtain ⟨part, parts', he, hpart, hrest⟩ := covers_one_iff.mp hb
    cases pieces with
    | nil => exact .inl ⟨left, hleft, hb⟩
    | cons piece pieces =>
      have ht : pieces ++ left = parts' := (List.cons.inj he).2
      exact .inr ⟨parts', ht ▸ .many pieces hleft, hrest⟩

/-- Segments that cover a common sequence of parts overlap. -/
theorem overlapAll_of_common {a b : List Segment} {parts : List (List Char)} (ha : Covers a parts)
    (hb : Covers b parts) : overlapAll a b = true := by
  induction a, b using overlapAll.induct generalizing parts with
  | case1 => rw [overlapAll]
  | case2 a ih =>
    have hp := covers_nil_iff.mp hb
    obtain ⟨pieces, left, he, hleft⟩ := covers_many_iff.mp ha
    have hl : left = [] := (List.append_eq_nil_iff.mp (he.symm.trans hp)).2
    rw [overlapAll]
    exact ih (hl ▸ hleft) .nil
  | case3 a segment b ih₁ ih₂ =>
    rw [overlapAll, Bool.or_eq_true]
    rcases common_step ha hb with ⟨left, h₁, h₂⟩ | ⟨left, h₁, h₂⟩
    · exact .inl (ih₁ h₁ h₂)
    · exact .inr (ih₂ h₁ h₂)
  | case4 b ih =>
    have hp := covers_nil_iff.mp ha
    obtain ⟨pieces, left, he, hleft⟩ := covers_many_iff.mp hb
    have hl : left = [] := (List.append_eq_nil_iff.mp (he.symm.trans hp)).2
    rw [overlapAll]
    exact ih .nil (hl ▸ hleft)
  | case5 x a b ih₁ ih₂ =>
    rw [overlapAll, Bool.or_eq_true]
    rcases common_step hb ha with ⟨left, h₁, h₂⟩ | ⟨left, h₁, h₂⟩
    · exact .inl (ih₁ h₂ h₁)
    · exact .inr (ih₂ h₂ h₁)
  | case6 x a y b ih =>
    obtain ⟨part, left, rfl, hx, hleft⟩ := covers_one_iff.mp ha
    obtain ⟨part', left', he, hy, hleft'⟩ := covers_one_iff.mp hb
    cases he
    rw [overlapAll, Bool.and_eq_true]
    exact ⟨Glob.overlaps_of_common hx hy, ih hleft hleft'⟩
  | case7 y b =>
    obtain ⟨part, left, he, _⟩ := covers_one_iff.mp hb
    exact absurd ((covers_nil_iff.mp ha).symm.trans he) (List.cons_ne_nil _ _).symm
  | case8 x a =>
    obtain ⟨part, left, he, _⟩ := covers_one_iff.mp ha
    exact absurd ((covers_nil_iff.mp hb).symm.trans he) (List.cons_ne_nil _ _).symm

/-- All characters in the globs of the segments are legal. -/
def Over (legal : Char → Prop) (segments : List Segment) : Prop :=
  ∀ glob, one glob ∈ segments → ∀ c ∈ glob.chars, legal c

/-- The parts are made of legal characters that are no stars. -/
def Plain (legal : Char → Prop) (parts : List (List Char)) : Prop :=
  ∀ part ∈ parts, ∀ c ∈ part, c ≠ '*' ∧ legal c

section

variable {legal : Char → Prop}

/-- The segments after the first have only legal characters if all have. -/
theorem Over.tail {segment : Segment} {rest : List Segment} (h : Over legal (segment :: rest)) :
    Over legal rest :=
  fun glob hm => h glob (List.mem_cons_of_mem _ hm)

/-- Parts in front of others are plain if both are. -/
theorem Plain.append {first second : List (List Char)} (h₁ : Plain legal first)
    (h₂ : Plain legal second) : Plain legal (first ++ second) := by
  intro part hm
  rcases List.mem_append.mp hm with hm | hm
  · exact h₁ part hm
  · exact h₂ part hm

/-- A single segment always covers some plain parts. -/
theorem exists_pieces {segment : Segment} {rest : List Segment} (h : Over legal (segment :: rest)) :
    ∃ pieces, Plain legal pieces ∧
      ∀ {parts}, Covers rest parts → Covers (segment :: rest) (pieces ++ parts) := by
  cases segment with
  | many => exact ⟨[], fun _ hm => absurd hm List.not_mem_nil, .many []⟩
  | one glob =>
    refine ⟨[glob.chars.filter (· != '*')], ?_, .one (Glob.fits_strike _)⟩
    intro part hm c hc
    rw [List.mem_singleton.mp hm] at hc
    obtain ⟨hc, hs⟩ := List.mem_filter.mp hc
    exact ⟨by simpa using hs, h glob List.mem_cons_self c hc⟩

/-- Segments that overlap cover a common sequence of plain parts. -/
theorem exists_common_of_overlapAll {a b : List Segment} (h : overlapAll a b = true)
    (ha : Over legal a) (hb : Over legal b) :
    ∃ parts, Covers a parts ∧ Covers b parts ∧ Plain legal parts := by
  induction a, b using overlapAll.induct with
  | case1 => exact ⟨[], .nil, .nil, fun _ hm => absurd hm List.not_mem_nil⟩
  | case2 a ih =>
    rw [overlapAll] at h
    obtain ⟨parts, h₁, h₂, hp⟩ := ih h ha.tail hb
    exact ⟨parts, .many [] h₁, h₂, hp⟩
  | case3 a segment b ih₁ ih₂ =>
    rw [overlapAll, Bool.or_eq_true] at h
    rcases h with h | h
    · obtain ⟨parts, h₁, h₂, hp⟩ := ih₁ h ha.tail hb
      exact ⟨parts, .many [] h₁, h₂, hp⟩
    · obtain ⟨parts, h₁, h₂, hp⟩ := ih₂ h ha hb.tail
      obtain ⟨pieces, hpieces, hcover⟩ := exists_pieces hb
      exact ⟨pieces ++ parts, covers_absorb h₁ pieces, hcover h₂, hpieces.append hp⟩
  | case4 b ih =>
    rw [overlapAll] at h
    obtain ⟨parts, h₁, h₂, hp⟩ := ih h ha hb.tail
    exact ⟨parts, h₁, .many [] h₂, hp⟩
  | case5 x a b ih₁ ih₂ =>
    rw [overlapAll, Bool.or_eq_true] at h
    rcases h with h | h
    · obtain ⟨parts, h₁, h₂, hp⟩ := ih₁ h ha hb.tail
      exact ⟨parts, h₁, .many [] h₂, hp⟩
    · obtain ⟨parts, h₁, h₂, hp⟩ := ih₂ h ha.tail hb
      obtain ⟨pieces, hpieces, hcover⟩ := exists_pieces ha
      exact ⟨pieces ++ parts, hcover h₁, covers_absorb h₂ pieces, hpieces.append hp⟩
  | case6 x a y b ih =>
    rw [overlapAll, Bool.and_eq_true] at h
    obtain ⟨parts, h₁, h₂, hp⟩ := ih h.2 ha.tail hb.tail
    obtain ⟨text, hx, hy, htext⟩ := Glob.exists_common_of_overlaps h.1
    have hplain : Plain legal [text] := by
      intro part hm c hc
      rw [List.mem_singleton.mp hm] at hc
      refine ⟨(htext c hc).1, ?_⟩
      rcases (htext c hc).2 with hc | hc
      · exact ha x List.mem_cons_self c hc
      · exact hb y List.mem_cons_self c hc
    exact ⟨text :: parts, .one hx h₁, .one hy h₂, hplain.append hp⟩
  | case7 y b => simp [overlapAll] at h
  | case8 x a => simp [overlapAll] at h

/-- Segments that cover no parts at all, but are not empty themselves, cover every single part as well,
because they begin with `..`. -/
theorem covers_singleton_of_nil {segments : List Segment} (h : Covers segments []) (hn : segments ≠ [])
    (part : List Char) : Covers segments [part] := by
  cases segments with
  | nil => exact absurd rfl hn
  | cons segment rest =>
    cases segment with
    | many => exact covers_absorb h [part]
    | one glob =>
      obtain ⟨_, _, he, _⟩ := covers_one_iff.mp h
      exact absurd he.symm (List.cons_ne_nil _ _)

/-- Lists of segments that overlap and are not empty cover a common sequence of at least one part. -/
theorem exists_common_ne_nil {a b : List Segment} (h : overlapAll a b = true) (ha : Over legal a)
    (hb : Over legal b) (hna : a ≠ []) (hnb : b ≠ []) :
    ∃ parts, parts ≠ [] ∧ Covers a parts ∧ Covers b parts ∧ Plain legal parts := by
  obtain ⟨parts, h₁, h₂, hp⟩ := exists_common_of_overlapAll h ha hb
  cases parts with
  | nil =>
    refine ⟨[[]], List.cons_ne_nil _ _, covers_singleton_of_nil h₁ hna [],
      covers_singleton_of_nil h₂ hnb [], ?_⟩
    intro part hm c hc
    rw [List.mem_singleton.mp hm] at hc
    exact absurd hc List.not_mem_nil
  | cons part parts => exact ⟨part :: parts, List.cons_ne_nil _ _, h₁, h₂, hp⟩

end

end Interception.Segment
