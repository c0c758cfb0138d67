import Interception.Proofs.BracketNesting
import Interception.Proofs.PointcutText

/-!
# Signatures as pointcuts

The text of a call signature has the shape of a pointcut: result type, declaring type and method, and the
parameters in parentheses. For a signature whose types are texts with nested brackets, it is read as a
pointcut that selects the signature if every space of the result type stands in angle or square brackets.
Parentheses do not keep a space from ending the result type, although they count everywhere else. So a
result type such as `(u64, String)` is cut inside its parentheses, which are then found to be left open.
-/

namespace Interception

open TypeText

/-- The text of a type: accepted as one, with nested brackets and no blank ends. -/
structure IsTypeText (text : List Char) : Prop where
  /-- The text is a type text. -/
  checked : check text = .ok ()
  /-- Every bracket is closed by one of its kind. -/
  nested : Nested text
  /-- The ends are not blank. -/
  trimmed : Text.trim text = text

namespace CallSignature

/-- A signature that can belong to a method: the declaring type is a path of identifiers, the method an
identifier, and the types are texts of types. Brackets of any kind surround the spaces of the result type
and the commas of parameters. -/
structure WellFormed (signature : CallSignature) : Prop where
  /-- The declaring type is a path of identifiers. -/
  declaringType : ∃ path : List (List Char), path ≠ [] ∧
    (∀ part ∈ path, part ≠ [] ∧ ∀ c ∈ part, isIdentifierChar c = true) ∧
    signature.declaringType.toList = TypePattern.joinParts path
  /-- The method has a name. -/
  name_ne_nil : signature.method.name.toList ≠ []
  /-- The method's name is an identifier. -/
  name_identifier : ∀ c ∈ signature.method.name.toList, isIdentifierChar c = true
  /-- The result type is the text of a type. -/
  returnType : IsTypeText signature.method.returnType.toList
  /-- Spaces of the result type stand in brackets. -/
  return_spaces : BracketCount.all.Inside (· == ' ') signature.method.returnType.toList
  /-- The parameters are texts of types. -/
  params : ∀ param ∈ signature.method.params, IsTypeText param.toList
  /-- Commas of parameters stand in brackets. -/
  param_commas : ∀ param ∈ signature.method.params, BracketCount.all.Inside (· == ',') param.toList
  /-- No parameter stands for any number of parameters. -/
  param_ne_many : ".." ∉ signature.method.params

/-- The four patterns that a signature's text shows, for the path of the declaring type. -/
def parts (signature : CallSignature) (path : List (List Char)) : Pointcut.Parts :=
  { returnType := signature.method.returnType.toList
    typeSegments := path.map fun part => .one ⟨part⟩
    method := signature.method.name.toList
    params := signature.method.params.map fun param => .one ⟨param.toList⟩ }

variable {signature : CallSignature} {path : List (List Char)}

/-- A path of globs ends with a glob. -/
theorem endsWithGlob_path (hn : path ≠ []) :
    TypePattern.endsWithGlob false (path.map fun part => .one ⟨part⟩) = true := by
  obtain ⟨first, last, rfl⟩ := List.eq_nil_or_concat path |>.resolve_left hn
  rw [List.concat_eq_append, List.map_append, TypePattern.endsWithGlob_append]
  rfl

/-- The text of a signature is the canonical text of its patterns. -/
theorem display_eq_render (hn : path ≠ [])
    (hpath : signature.declaringType.toList = TypePattern.joinParts path) :
    signature.display = String.ofList (signature.parts path).render := by
  obtain ⟨first, later, rfl⟩ := List.exists_cons_of_ne_nil hn
  have hparams : (Text.joined ", " signature.method.params).toList =
      Pointcut.Parts.renderParams (signature.parts (first :: later)).params := by
    rw [Text.joined, String.toList_intercalate, Pointcut.Parts.renderParams, parts, List.map_map]
    rfl
  have hhead : (signature.parts (first :: later)).renderHead =
      signature.declaringType.toList ++ '.' :: signature.method.name.toList := by
    rw [Pointcut.Parts.renderHead, parts, endsWithGlob_path hn, if_pos rfl, TypePattern.render_globs,
      hpath, List.append_assoc]
    rfl
  rw [Pointcut.Parts.render, hhead, ← hparams, ← String.toList_inj, String.toList_ofList, display,
    operation]
  simp [parts]

/-- The patterns of a signature look as those of a pointcut have to, if angle or square brackets surround
the spaces of the result type. -/
theorem WellFormed.legal_parts (h : signature.WellFormed) (hn : path ≠ [])
    (hparts : ∀ part ∈ path, part ≠ [] ∧ ∀ c ∈ part, isIdentifierChar c = true)
    (hspaces : BracketCount.angleSquare.Inside (· == ' ') signature.method.returnType.toList) :
    (signature.parts path).Legal := by
  have happart : ∀ {α : Type} (globs : List α) (chars : α → List Char),
      Segment.ManyApart (globs.map fun glob => .one ⟨chars glob⟩) := by
    intro α globs chars hinfix
    have hmany := hinfix.subset (List.mem_cons_self : Segment.many ∈ [.many, .many])
    simp at hmany
  have hangle := BracketCount.angleSquare_byKind
  have hall := BracketCount.all_byKind
  have hparams : ∀ glob, .one glob ∈ (signature.parts path).params →
      Pointcut.LegalParam glob.chars := by
    intro glob hglob
    obtain ⟨param, hparam, hone⟩ := List.mem_map.mp hglob
    cases hone
    have htype := h.params param hparam
    refine ⟨htype.trimmed, htype.checked, fun hmany => h.param_ne_many ?_,
      (BracketCount.inside_iff_encloses hall htype.nested).mp (h.param_commas param hparam)⟩
    rwa [← String.toList_inj.mp (hmany.trans rfl : param.toList = "..".toList)]
  have hglobs : TypePattern.GlobsLegal (signature.parts path).typeSegments := by
    intro glob hglob
    obtain ⟨part, hpart, hone⟩ := List.mem_map.mp hglob
    cases hone
    exact hparts part hpart
  exact
    { return_checked := h.returnType.checked
      return_spaces := (BracketCount.inside_iff_encloses hangle h.returnType.nested).mp hspaces
      return_balanced := BracketCount.balance_of_nested hangle h.returnType.nested
      type_ne_nil := by simpa [parts] using hn
      type_globs := hglobs
      type_apart := happart path id
      method_ne_nil := h.name_ne_nil
      method_identifier := h.name_identifier
      params_legal := hparams
      params_apart := happart _ String.toList }

/-- Texts are covered by themselves as globs. -/
theorem covers_self (texts : List (List Char)) :
    Segment.Covers (texts.map fun text => .one ⟨text⟩) texts := by
  induction texts with
  | nil => exact .nil
  | cons text texts ih => exact .one (Glob.fits_self text) ih

/-- The pointcut with a signature's patterns selects the signature. -/
theorem accepts_toPointcut (hn : path ≠ [])
    (hparts : ∀ part ∈ path, part ≠ [] ∧ ∀ c ∈ part, isIdentifierChar c = true)
    (hpath : signature.declaringType.toList = TypePattern.joinParts path) :
    (signature.parts path).toPointcut.accepts signature = true := by
  have hdots : ∀ part ∈ path, '.' ∉ part := fun part hpart hdot =>
    TypePattern.ne_dot_of_isIdentifierChar ((hparts part hpart).2 '.' hdot) rfl
  have hglob : ∀ text : List Char, (⟨text⟩ : Glob).accepts text = true := fun text =>
    (Glob.accepts_iff _ _).mpr (Glob.fits_self text)
  have htype : (signature.parts path).toPointcut.typePattern.accepts signature.declaringType = true := by
    rw [TypePattern.accepts_iff, hpath, TypePattern.nameParts_joinParts hn hdots]
    exact covers_self path
  have hparams : Segment.coverAll (signature.parts path).toPointcut.argsPattern
      (signature.method.params.map String.toList) = true := by
    have hcovers := covers_self (signature.method.params.map String.toList)
    rw [List.map_map] at hcovers
    exact (Segment.coverAll_iff _ _).mpr hcovers
  rw [Pointcut.accepts, htype, hparams]
  simp [Pointcut.Parts.toPointcut, parts, hglob]

/-- The text of a signature has no blank ends. -/
theorem WellFormed.trim_display (h : signature.WellFormed) :
    Text.trim signature.display.toList = signature.display.toList := by
  obtain ⟨first, later, hreturn⟩ := List.exists_cons_of_ne_nil (ne_nil_of_check h.returnType.checked)
  have hfirst : Text.isBlank first = false :=
    Text.head_of_trim_eq h.returnType.trimmed (by rw [hreturn]; rfl)
  have hsplit : signature.display.toList = first :: ((later ++ ' ' :: signature.operation.toList ++
      '(' :: (Text.joined ", " signature.method.params).toList) ++ [')']) := by
    simp [display, hreturn]
  rw [hsplit]
  exact Text.trim_cons_concat _ hfirst (by decide)

/-- Where a space of the result type stands outside angle and square brackets, the result type is cut off
and found to leave brackets open. -/
theorem WellFormed.parse_display_error (h : signature.WellFormed)
    (hspaces : ¬ BracketCount.angleSquare.Inside (· == ' ') signature.method.returnType.toList) :
    ∃ front back, signature.method.returnType.toList = front ++ ' ' :: back ∧
      Pointcut.parse signature.display =
        .error (signature.display, .badType (.unbalanced (String.ofList front))) := by
  have hnested := h.returnType.nested
  rw [BracketCount.inside_iff_encloses BracketCount.angleSquare_byKind hnested] at hspaces
  -- Blank characters of a type text are spaces, so the first such space is where the result type ends.
  obtain ⟨front, c, back, hreturn, hc, hbalance, hfront⟩ :=
    BracketCount.exists_first_of_not_encloses hspaces
  obtain rfl : c = ' ' := by simpa using hc
  have hlegal := (check_sound h.returnType.checked).2
  have hblanks : BracketCount.angleSquare.Encloses Text.isBlank 0 front := by
    intro before d after he hd
    have hspace := (hlegal d (by simp [hreturn, he])).eq_space hd
    exact hfront before d after he (by simp [hspace])
  have hopen : BracketCount.all.balance front ≠ 0 := by
    have henclosed := (BracketCount.inside_iff_encloses BracketCount.all_byKind hnested).mp
      h.return_spaces front ' ' back hreturn rfl
    rwa [Int.zero_add] at henclosed
  have hcheck : check front = .error (.unbalanced (String.ofList front)) := by
    have hchecked := h.returnType.checked
    rw [hreturn] at hchecked
    exact check_left hchecked hopen
  let rest := back ++ ' ' :: signature.operation.toList ++
    '(' :: (Text.joined ", " signature.method.params).toList ++ [')']
  have hdisplay : signature.display.toList = front ++ ' ' :: rest := by
    simp [display, hreturn, rest]
  have hrest : Text.trim rest ≠ [] :=
    @Text.trim_ne_nil rest ')' (by simp [rest]) (by decide)
  refine ⟨front, back, hreturn, ?_⟩
  rw [Pointcut.parse, h.trim_display, Pointcut.parseTrimmed, hdisplay,
    Pointcut.splitReturn_of_encloses [] front rest hblanks hbalance hrest, List.reverse_nil,
    List.nil_append]
  simp only [hcheck]
  rw [← hdisplay, String.ofList_toList]

/-- The text of a signature is read as a pointcut that selects the signature if every space of the result
type stands in angle or square brackets. If one stands in parentheses only, the text is refused because
the result type, cut off there, leaves brackets open. -/
theorem parse_display (h : signature.WellFormed) :
    (BracketCount.angleSquare.Inside (· == ' ') signature.method.returnType.toList →
      ∃ pointcut, Pointcut.parse signature.display = .ok pointcut ∧
        pointcut.accepts signature = true) ∧
    (¬ BracketCount.angleSquare.Inside (· == ' ') signature.method.returnType.toList →
      ∃ front back, signature.method.returnType.toList = front ++ ' ' :: back ∧
        Pointcut.parse signature.display =
          .error (signature.display, .badType (.unbalanced (String.ofList front)))) := by
  refine ⟨fun hspaces => ?_, h.parse_display_error⟩
  obtain ⟨path, hn, hparts, hpath⟩ := h.declaringType
  refine ⟨_, ?_, accepts_toPointcut hn hparts hpath⟩
  rw [display_eq_render hn hpath]
  exact Pointcut.parse_render_of_legal (h.legal_parts hn hparts hspaces)

/-- The method `put` of a service, with a generic and a borrowed parameter and the given result type. -/
def put (returnType : String) : CallSignature :=
  ⟨"a.Svc", "Svc", ⟨"put", ["Vec<(u8, u8)>", "&str"], returnType⟩⟩

/-- The method `put` is well-formed with every type text as result type whose spaces stand in brackets. -/
theorem wellFormed_put {returnType : String} (htype : IsTypeText returnType.toList)
    (hspaces : BracketCount.all.Encloses (· == ' ') 0 returnType.toList) :
    (put returnType).WellFormed := by
  have hgeneric : IsTypeText "Vec<(u8, u8)>".toList := ⟨rfl, by decide, rfl⟩
  have hborrowed : IsTypeText "&str".toList := ⟨rfl, by decide, rfl⟩
  have hall := BracketCount.all_byKind
  have hpath : ∀ part ∈ ["a".toList, "Svc".toList],
      part ≠ [] ∧ part.all isIdentifierChar = true := by decide
  exact
    { declaringType := ⟨["a".toList, "Svc".toList], by decide,
        fun part hpart => ⟨(hpath part hpart).1, List.all_eq_true.mp (hpath part hpart).2⟩,
        (by decide : "a.Svc".toList = TypePattern.joinParts ["a".toList, "Svc".toList])⟩
      name_ne_nil := by simp [put]
      name_identifier := List.all_eq_true.mp (by decide : "put".toList.all isIdentifierChar = true)
      returnType := htype
      return_spaces := (BracketCount.inside_iff_encloses hall htype.nested).mpr hspaces
      params := by
        simp only [put, List.forall_mem_cons, List.not_mem_nil, false_imp_iff, implies_true, and_true]
        exact ⟨hgeneric, hborrowed⟩
      param_commas := by
        simp only [put, List.forall_mem_cons, List.not_mem_nil, false_imp_iff, implies_true, and_true]
        exact ⟨(BracketCount.inside_iff_encloses hall hgeneric.nested).mpr (by decide),
          (BracketCount.inside_iff_encloses hall hborrowed.nested).mpr (by decide)⟩
      param_ne_many := (by decide : ".." ∉ ["Vec<(u8, u8)>", "&str"]) }

/-- A space in angle brackets does not keep a signature from selecting itself, and one in parentheses
does. -/
theorem parse_display_generic_tuple :
    (∃ pointcut, Pointcut.parse "Result<u64, Error> a.Svc.put(Vec<(u8, u8)>, &str)" = .ok pointcut ∧
      pointcut.accepts (put "Result<u64, Error>") = true) ∧
    ∃ front back, "(u64, String)".toList = front ++ ' ' :: back ∧
      Pointcut.parse (put "(u64, String)").display = .error ((put "(u64, String)").display,
        .badType (.unbalanced (String.ofList front))) := by
  have hgeneric : IsTypeText "Result<u64, Error>".toList := ⟨rfl, by decide, rfl⟩
  have htuple : IsTypeText "(u64, String)".toList := ⟨rfl, by decide, rfl⟩
  have hangle := BracketCount.angleSquare_byKind
  have hinside := (BracketCount.inside_iff_encloses hangle hgeneric.nested).mpr
    (by decide : BracketCount.angleSquare.Encloses (· == ' ') 0 _)
  have hnotInside := mt (BracketCount.inside_iff_encloses hangle htuple.nested).mp
    (by decide : ¬ BracketCount.angleSquare.Encloses (· == ' ') 0 _)
  exact ⟨(parse_display (wellFormed_put hgeneric (by decide))).1 hinside,
    (parse_display (wellFormed_put htuple (by decide))).2 hnotInside⟩

/-- Not every well-formed signature is a pointcut for itself: one that returns a tuple is none, although
the tuple's comma and space stand in parentheses. -/
theorem parse_display_not_total :
    ¬ ∀ signature : CallSignature, signature.WellFormed →
      BracketCount.all.Inside (· == ',') signature.method.returnType.toList →
      ∃ pointcut, Pointcut.parse signature.display = .ok pointcut ∧
        pointcut.accepts signature = true := by
  intro hall
  have htuple : IsTypeText "(u64, String)".toList := ⟨rfl, by decide, rfl⟩
  have hcomma := (BracketCount.inside_iff_encloses BracketCount.all_byKind htuple.nested).mpr
    (by decide : BracketCount.all.Encloses (· == ',') 0 _)
  obtain ⟨pointcut, hparse, _⟩ := hall (put "(u64, String)") (wellFormed_put htuple (by decide)) hcomma
  have hrefused : Pointcut.parse (put "(u64, String)").display =
      .error ("(u64, String) a.Svc.put(Vec<(u8, u8)>, &str)", .badType (.unbalanced "(u64,")) := rfl
  rw [hrefused] at hparse
  cases hparse

end CallSignature

end Interception
