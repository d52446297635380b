/-!
# Decimal text of floating-point numbers

A number is written with the fewest decimal digits that still read back as the same number, without
an exponent and always with a point. Of all numbers that read back, the one on the coarsest decimal
grid is taken, and on this grid the one nearest to the exact value; of two equally near ones, the
one further from zero.
-/

namespace Graft.Decimal

/-- A positive binary number `significand * 2 ^ exponent`, with the steps to its neighbours. -/
structure Binary where
  /-- The significand. -/
  significand : Nat
  /-- The power of two that it is multiplied with. -/
  exponent : Int
  /-- Whether the neighbour below is only half as far away as the one above. -/
  halfStepBelow : Bool

/-- The parts of the magnitude of a finite number, from the 64 bits that encode it. -/
def Binary.ofBits (bits : Nat) : Binary :=
  let fraction : Nat := bits % Nat.pow 2 52
  let scale : Nat := bits / Nat.pow 2 52 % Nat.pow 2 11
  if scale = 0 then ⟨fraction, -1074, false⟩
  else ⟨fraction + Nat.pow 2 52, (scale : Int) - 1075, fraction = 0 && 1 < scale⟩

/-- The nearest whole multiple of `10 ^ grid` to the number among those that read back as it, the
greater one if two are equally near. Values are counted in quarters of the step of the
significand. -/
def Binary.onGrid? (x : Binary) (grid : Int) : Option Nat :=
  let scale := (x.exponent - 2).toNat
  let unscale := (2 - x.exponent).toNat
  -- `quarters * 2 ^ scale * ten` over `2 ^ unscale * step` counts steps of the grid
  let above := Nat.pow 2 scale * Nat.pow 10 (-grid).toNat
  let below := Nat.pow 2 unscale * Nat.pow 10 grid.toNat
  let value := 4 * x.significand * above
  let low := (4 * x.significand - if x.halfStepBelow then 1 else 2) * above
  let high := (4 * x.significand + 2) * above
  let inside (n : Nat) : Bool :=
    if x.significand % 2 = 0 then low ≤ n * below && n * below ≤ high
    else low < n * below && n * below < high
  let down := value / below
  let up := down + 1
  let downFits := 0 < down && inside down
  if downFits && inside up then
    if up * below - value ≤ value - down * below then some up else some down
  else if downFits then some down
  else if inside up then some up
  else none

/-- The coarsest grid from `10 ^ grid` downwards, at most `fuel` of them, with its multiple. -/
def Binary.shortest (x : Binary) : (fuel : Nat) → (grid : Int) → Nat × Int
  | 0, grid => (0, grid)
  | fuel + 1, grid =>
    match x.onGrid? grid with
    | some n => (n, grid)
    | none => x.shortest fuel (grid - 1)

/-- The number `n * 10 ^ grid` with a point. -/
def positional (n : Nat) (grid : Int) : String :=
  let digits := Nat.toDigits 10 n
  if 0 ≤ grid then
    String.ofList (digits ++ List.replicate grid.toNat '0' ++ ['.', '0'])
  else
    let places := (-grid).toNat
    let padded := List.replicate (places + 1 - digits.length) '0' ++ digits
    let whole := padded.length - places
    String.ofList (padded.take whole ++ '.' :: padded.drop whole)

/-- The decimal text of a floating-point number. -/
def ofFloat (x : Float) : String :=
  let bits := x.toBits.toNat
  let sign := if bits < Nat.pow 2 63 then "" else "-"
  let magnitude := bits % Nat.pow 2 63
  if magnitude = 0 then sign ++ "0.0"
  else if magnitude < 0x7FF0000000000000 then
    let (n, grid) := (Binary.ofBits magnitude).shortest 700 309
    sign ++ positional n grid
  else if magnitude = 0x7FF0000000000000 then sign ++ "inf"
  else "NaN"

end Graft.Decimal
