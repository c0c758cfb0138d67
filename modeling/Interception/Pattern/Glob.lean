/-!
# Patterns inside one segment

A glob is a text in which every star stands for any text, the empty one included, and every other
character for itself. Matching scans both texts once from the left and comes back only to the star
seen last, letting it cover one character more each time. That this is enough is due to the earlier
stars: whatever they cover can be given to the last one.

Two globs overlap when some text fits both. With stars on both sides the middle parts can always be
absorbed, so only the parts before the first star and after the last one have to be compatible.
-/

namespace Interception

/-- A pattern for one segment of a path or one parameter type. -/
structure Glob where
  /-- The pattern's characters, where a star stands for any text. -/
  chars : List Char
  deriving DecidableEq

namespace Glob

/-- Continues a match after a star was seen. The pattern after the star is `resume` and the star
covers the text down to `mark`; `pattern` and `text` are what is still to be matched. -/
def matchAfterStar (resume mark pattern text : List Char) (h : text.length ≤ mark.length) : Bool :=
  match text, pattern with
  | [], pattern => pattern.all (· == '*')
  | c :: text, '*' :: pattern => matchAfterStar pattern (c :: text) pattern (c :: text) (Nat.le_refl _)
  | c :: text, d :: pattern =>
    if d = c then
      matchAfterStar resume mark pattern text (Nat.le_of_succ_le h)
    else
      match mark with
      | [] => false
      | _ :: mark => matchAfterStar resume mark resume mark (Nat.le_refl _)
  | _ :: _, [] =>
    match mark with
    | [] => false
    | _ :: mark => matchAfterStar resume mark resume mark (Nat.le_refl _)
termination_by (mark.length, pattern.length)
decreasing_by
  all_goals simp_wf
  · simp only [List.length_cons] at h
    rcases Nat.lt_or_ge (text.length + 1) mark.length with hlt | hge
    · exact Prod.Lex.left _ _ hlt
    · rw [Nat.le_antisymm h hge]
      exact Prod.Lex.right _ (Nat.lt_succ_self _)
  · exact Prod.Lex.right _ (Nat.lt_succ_self _)
  · exact Prod.Lex.left _ _ (Nat.lt_succ_self _)
  · exact Prod.Lex.left _ _ (Nat.lt_succ_self _)

/-- Matches a pattern against a text from the left, before any star was seen. -/
def matchText : (pattern text : List Char) → Bool
  | pattern, [] => pattern.all (· == '*')
  | '*' :: pattern, c :: text => matchAfterStar pattern (c :: text) pattern (c :: text) (Nat.le_refl _)
  | d :: pattern, c :: text => d == c && matchText pattern text
  | [], _ :: _ => false

/-- Whether the text is the pattern with some text in place of every star. -/
def accepts (glob : Glob) (text : List Char) : Bool := matchText glob.chars text

/-- Whether the pattern holds a star. -/
def hasStar (glob : Glob) : Bool := glob.chars.contains '*'

/-- The literal text before the first star. -/
def leading (glob : Glob) : List Char := glob.chars.takeWhile (· != '*')

/-- The literal text after the last star. -/
def trailing (glob : Glob) : List Char := (glob.chars.reverse.takeWhile (· != '*')).reverse

/-- Whether some text fits both patterns. -/
def overlaps (a b : Glob) : Bool :=
  match a.hasStar, b.hasStar with
  | false, false => a == b
  | true, false => a.accepts b.chars
  | false, true => b.accepts a.chars
  | true, true =>
    (b.leading.isPrefixOf a.leading || a.leading.isPrefixOf b.leading) &&
      (b.trailing.isSuffixOf a.trailing || a.trailing.isSuffixOf b.trailing)

end Glob

end Interception
