/-!
# Sets and maps of code points

A property of characters is a set of code points, written as a list of ranges or, where every
second code point belongs to it, as a list of runs with a step. A case map shifts whole runs.
-/

namespace Companion.Text

/-- Whether a character lies in one of the ranges, both ends included. -/
def inRanges (table : List (Nat × Nat)) (c : Char) : Bool :=
  table.any fun r => r.1 ≤ c.toNat && c.toNat ≤ r.2

/-- The code points `first`, `first + step`, … up to `last`. -/
structure Run where
  first : Nat
  last : Nat
  step : Nat

/-- Whether a code point belongs to a run. -/
def Run.holds (r : Run) (n : Nat) : Bool :=
  r.first ≤ n && n ≤ r.last && (n - r.first) % r.step == 0

/-- Whether a character lies in one of the runs. -/
def inRuns (table : List Run) (c : Char) : Bool := table.any (·.holds c.toNat)

/-- A run whose members are all mapped by the same distance. -/
structure Shift where
  first : Nat
  last : Nat
  step : Nat
  offset : Int

/-- The code points that are mapped. -/
def Shift.run (s : Shift) : Run := ⟨s.first, s.last, s.step⟩

/-- The image of a character: its sequence if it has one, else its shifted self, else itself. -/
def mapCase (sequences : List (Nat × List Nat)) (shifts : List Shift) (c : Char) : List Char :=
  match sequences.lookup c.toNat with
  | some image => image.map Char.ofNat
  | none =>
    match shifts.find? (·.run.holds c.toNat) with
    | some s => [Char.ofNat (c.toNat + s.offset).toNat]
    | none => [c]

end Companion.Text
