import Interception.Text.Describe

/-!
# Meters

A meter family counts the finished calls of methods, apart for successes and failures, together with
the distribution of their durations. Families are registered under a stem that begins all their names,
either in the registry shared by all users or in a private one, and are addressed by their place in the
order of registration. The same stem may be registered several times: a registry does not look at the names
that it has. Which shared family belongs to a stem is kept apart from the registries.

The exposition of a registry lists the families in the order of registration. Under each header the
samples are sorted as texts. Numbers that come from measured durations are shown as a sharp sign.
-/

namespace Interception

/-- Adds one to the number kept under a key, which starts at zero. -/
def tally {α : Type} [BEq α] (key : α) : List (α × Nat) → List (α × Nat)
  | [] => [(key, 1)]
  | (k, n) :: rest => if k == key then (k, n + 1) :: rest else (k, n) :: tally key rest

/-- Counters and duration histograms under one stem. -/
structure MeterFamily where
  /-- The beginning of all names. -/
  stem : String
  /-- Whether the family belongs to the registry shared by all users. -/
  isShared : Bool
  /-- The numbers of finished calls by method and success. -/
  calls : List ((String × Bool) × Nat)
  /-- The numbers of measured durations by method. -/
  durations : List (String × Nat)
  deriving DecidableEq

/-- All meter families in the order of registration. -/
structure Meters where
  /-- The families in the order of registration. -/
  families : List MeterFamily
  /-- The numbers of the families that all users of a stem share, by stem. -/
  shared : List (String × Nat)
  deriving DecidableEq

namespace MeterFamily

/-- The upper bounds of the histogram's buckets, each twice the one before. -/
def bucketBounds : List String :=
  ["0.0005", "0.001", "0.002", "0.004", "0.008", "0.016", "0.032", "0.064", "0.128", "0.256", "0.512",
   "1.024", "2.048", "4.096", "8.192", "16.384"]

/-- Counts one finished call. -/
def count (family : MeterFamily) (method : String) (succeeded : Bool) : MeterFamily :=
  { family with
    calls := tally (method, succeeded) family.calls
    durations := tally method family.durations }

/-- The name under which the counters are registered. -/
def callsName (family : MeterFamily) : String := family.stem ++ "_calls"

/-- The name under which the histograms are registered. -/
def durationsName (family : MeterFamily) : String := family.stem ++ "_duration_seconds"

/-- The names under which the meters of a family are registered. -/
def names (family : MeterFamily) : List String := [family.callsName, family.durationsName]

/-- The number of finished calls that were counted for a method. -/
def counter (family : MeterFamily) (method : String) (succeeded : Bool) : Nat :=
  (family.calls.lookup (method, succeeded)).getD 0

/-- The labels of a sample in braces. -/
def labels (parts : List (String × String)) : String :=
  "\x7b" ++ ",".intercalate (parts.map fun p => p.1 ++ "=\"" ++ p.2 ++ "\"") ++ "\x7d"

/-- The samples of the counters, each with its value. -/
def callSamples (family : MeterFamily) : List (String × Nat) :=
  family.calls.map fun ((method, succeeded), n) =>
    (family.callsName ++ "_total" ++
      labels [("method", method), ("status", if succeeded then "success" else "error")], n)

/-- The samples of the histograms' sizes, each with its value. -/
def sizeSamples (family : MeterFamily) : List (String × Nat) :=
  family.durations.map fun (method, n) =>
    (family.durationsName ++ "_count" ++ labels [("method", method)], n)

/-- The sample lines of the histogram of one method. -/
def durationLines (family : MeterFamily) (method : String) (n : Nat) : List String :=
  let name := family.durationsName
  let bucket (bound value : String) :=
    name ++ "_bucket" ++ labels [("le", bound), ("method", method)] ++ " " ++ value
  (name ++ "_sum" ++ labels [("method", method)] ++ " #") ::
    (name ++ "_count" ++ labels [("method", method)] ++ " " ++ toString n) ::
    bucket "+Inf" (toString n) :: bucketBounds.map fun bound => bucket bound "#"

/-- The headers of a meter. -/
def header (name help kind : String) : List String :=
  ["# HELP " ++ name ++ " " ++ help ++ ".", "# TYPE " ++ name ++ " " ++ kind]

/-- The exposition of one family. -/
def exposition (family : MeterFamily) : List String :=
  header family.callsName "Number of intercepted method calls" "counter" ++
    Text.sorted (family.callSamples.map fun (name, n) => name ++ " " ++ toString n) ++
    header family.durationsName "Duration of intercepted method calls" "histogram" ++
    Text.sorted (family.durations.flatMap fun (method, n) => family.durationLines method n)

/-- The numbers of counted calls, as lines in increasing order. -/
def countLines (family : MeterFamily) : List String :=
  Text.sorted ((family.callSamples ++ family.sizeSamples).map fun (name, n) =>
    name ++ " " ++ toString n)

end MeterFamily

namespace Meters

/-- No families. -/
def empty : Meters := ⟨[], []⟩

/-- Registers a new family and gives its number. -/
def register (meters : Meters) (stem : String) (isShared : Bool) : Nat × Meters :=
  (meters.families.length,
    { meters with families := meters.families ++ [⟨stem, isShared, [], []⟩] })

/-- Keeps a family as the one that all users of a stem share. -/
def share (meters : Meters) (stem : String) (family : Nat) : Meters :=
  { meters with shared := (stem, family) :: meters.shared }

/-- The number of the family that all users of a stem share. -/
def shared? (meters : Meters) (stem : String) : Option Nat := meters.shared.lookup stem

/-- The families with the stem in the shared registry, of which there should be one at most. -/
def sharedFamilies (meters : Meters) (stem : String) : List MeterFamily :=
  meters.families.filter fun family => family.isShared && family.stem == stem

/-- The names in the shared or in the private registry in the order of registration. -/
def names (meters : Meters) (isShared : Bool) : List String :=
  (meters.families.filter (·.isShared == isShared)).flatMap MeterFamily.names

/-- Counts one finished call in a family. -/
def count (meters : Meters) (family : Nat) (method : String) (succeeded : Bool) : Meters :=
  { meters with families := meters.families.modify family (·.count method succeeded) }

/-- The exposition of the shared or of the private registry. -/
def exposition (meters : Meters) (isShared : Bool) : List String :=
  ((meters.families.filter (·.isShared == isShared)).flatMap MeterFamily.exposition) ++ ["# EOF"]

end Meters

end Interception
