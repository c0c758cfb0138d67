import Interception.Text.Decimal

/-!
# Points in time

A date, a time of day, or both, in the latter case with an optional offset from universal time. Written
forms may vary in the separator of date and time and in trailing zeros of a fraction. The rendered form is
always the same for the same point in time. Of a fraction only nine digits count.
-/

namespace Interception.Toml

open Interception.Text

/-- A day of the calendar. -/
structure Date where
  /-- The year. -/
  year : Nat
  /-- The month, beginning with one. -/
  month : Nat
  /-- The day of the month, beginning with one. -/
  day : Nat

/-- A time of day. -/
structure Time where
  /-- The hour. -/
  hour : Nat
  /-- The minute. -/
  minute : Nat
  /-- The second, which may be a leap second. -/
  second : Nat
  /-- The nine digits of the fraction as a number. -/
  nanosecond : Nat

/-- A distance from universal time. -/
inductive Offset where
  /-- Universal time itself. -/
  | universal
  /-- A distance in minutes. -/
  | minutes (n : Int)

/-- A date, a time or both. -/
structure Moment where
  /-- The date. -/
  date : Option Date
  /-- The time of day. -/
  time : Option Time
  /-- The offset. -/
  offset : Option Offset

/-- The number of days of a month. -/
def monthLength (year month : Nat) : Nat :=
  if month = 2 then
    if year % 4 = 0 ∧ (year % 100 ≠ 0 ∨ year % 400 = 0) then 29 else 28
  else if [4, 6, 9, 11].contains month then 30
  else 31

/-- Two digits that write a number between two bounds. -/
def twoDigits? (low high : Nat) (a b : Char) : Option Nat :=
  (digits? 10 [a, b]).filter fun n => low ≤ n && n ≤ high

/-- Splits a date off. -/
def readDate? : List Char → Option (Date × List Char)
  | a :: b :: c :: d :: '-' :: e :: f :: '-' :: g :: h :: rest => do
    let year ← digits? 10 [a, b, c, d]
    let month ← twoDigits? 1 12 e f
    let day ← twoDigits? 1 (monthLength year month) g h
    some (⟨year, month, day⟩, rest)
  | _ => none

/-- Splits a fraction off, if there is one, in billionths. -/
def readFraction? : List Char → Option (Nat × List Char)
  | '.' :: rest => do
    let found := rest.takeWhile (isDigitOf 10)
    let _ ← digits? 10 found
    let n ← digits? 10 ((found ++ List.replicate 9 '0').take 9)
    some (n, rest.dropWhile (isDigitOf 10))
  | rest => some (0, rest)

/-- Splits a time of day off. -/
def readTime? : List Char → Option (Time × List Char)
  | a :: b :: ':' :: c :: d :: ':' :: e :: f :: rest => do
    let hour ← twoDigits? 0 23 a b
    let minute ← twoDigits? 0 59 c d
    let second ← twoDigits? 0 60 e f
    let (nanosecond, rest) ← readFraction? rest
    some (⟨hour, minute, second, nanosecond⟩, rest)
  | _ => none

/-- Reads a whole offset, which may be missing. -/
def readOffset? : List Char → Option (Option Offset)
  | [] => some none
  | ['Z'] => some (some .universal)
  | ['z'] => some (some .universal)
  | [sign, a, b, ':', c, d] => do
    let n : Int := 60 * (← twoDigits? 0 23 a b) + (← twoDigits? 0 59 c d)
    if sign = '+' then some (some (.minutes n))
    else if sign = '-' then some (some (.minutes (-n)))
    else none
  | _ => none

/-- Reads a whole text as a point in time. -/
def Moment.read? (cs : List Char) : Option Moment :=
  match readDate? cs with
  | some (date, []) => some ⟨some date, none, none⟩
  | some (date, mark :: rest) =>
    if mark = 'T' ∨ mark = 't' ∨ mark = ' ' then do
      let (time, rest) ← readTime? rest
      some ⟨some date, some time, ← readOffset? rest⟩
    else none
  | none =>
    match readTime? cs with
    | some (time, []) => some ⟨none, some time, none⟩
    | _ => none

/-- A number with at least so many digits. -/
def padded (width n : Nat) : String :=
  let digits := toString n
  String.ofList (List.replicate (width - digits.length) '0') ++ digits

/-- The date as a text. -/
def Date.render (d : Date) : String :=
  padded 4 d.year ++ "-" ++ padded 2 d.month ++ "-" ++ padded 2 d.day

/-- The time as a text, with a fraction only where there is one. -/
def Time.render (t : Time) : String :=
  let fraction := ((padded 9 t.nanosecond).toList.reverse.dropWhile (· = '0')).reverse
  padded 2 t.hour ++ ":" ++ padded 2 t.minute ++ ":" ++ padded 2 t.second ++
    if fraction.isEmpty then "" else "." ++ String.ofList fraction

/-- The offset as a text. -/
def Offset.render : Offset → String
  | universal => "Z"
  | minutes n =>
    (if n < 0 then "-" else "+") ++ padded 2 (n.natAbs / 60) ++ ":" ++ padded 2 (n.natAbs % 60)

/-- The point in time as a text. -/
def Moment.render (m : Moment) : String :=
  let date := (m.date.map Date.render).getD ""
  let time := (m.time.map Time.render).getD ""
  let between := if m.date.isSome && m.time.isSome then "T" else ""
  date ++ between ++ time ++ (m.offset.map Offset.render).getD ""

end Interception.Toml
