import HeapQuery.Number.Binary

namespace HeapQuery.Number

structure Decimal where
  digits : Nat
  exponent : Int
  deriving DecidableEq, Repr

inductive Tie
  | up
  | even
  deriving DecidableEq, Repr

def decimalMagnitude (n d : Nat) : Int :=
  let k : Int := ((Nat.toDigits 10 n).length : Int) - (Nat.toDigits 10 d).length
  let below := if 0 ≤ k then n < d * Nat.pow 10 k.toNat else n * Nat.pow 10 (-k).toNat < d
  if below then k - 1 else k

/-- The interval of quarters of a unit, `(low, high)` around `4 * m`, whose members round to the
mantissa `m`: half a unit on either side, but a quarter below a power of two. -/
def roundingInterval (f : Format) (m : Nat) (e : Int) : Nat × Nat :=
  (if m == 1 <<< (f.precision - 1) && f.least < e then 4 * m - 1 else 4 * m - 2, 4 * m + 2)

/-- Chooses among the neighbours of `value / unit` on a decimal grid those that lie in the
interval; all four arguments are counted on one scale. -/
def onGrid? (tie : Tie) (closed : Bool) (low value high unit : Nat) : Option Nat :=
  let q := value / unit
  let inside (x : Nat) : Bool :=
    if closed then low ≤ x * unit && x * unit ≤ high else low < x * unit && x * unit < high
  let below := inside q
  let above := inside (q + 1)
  if below && above then
    let r := value % unit
    if 2 * r < unit then some q
    else if unit < 2 * r then some (q + 1)
    else match tie with
      | .up => some (q + 1)
      | .even => some (q + q % 2)
  else if below then some q
  else if above then some (q + 1)
  else none

def stripZeros : Nat → Nat → Int → Decimal
  | 0, n, e => ⟨n, e⟩
  | fuel + 1, n, e => if n % 10 == 0 && n != 0 then stripZeros fuel (n / 10) (e + 1) else ⟨n, e⟩

def shortest (f : Format) (tie : Tie) (m : Nat) (e : Int) : Decimal :=
  let (low, high) := roundingInterval f m e
  let quarters := scale 1 (e - 2)
  let k := decimalMagnitude (4 * m * quarters.1) quarters.2
  let attempt (count : Nat) : Option Decimal :=
    let unit : Int := k - count
    let (up, down) := if 0 ≤ unit then (1, Nat.pow 10 unit.toNat) else (Nat.pow 10 (-unit).toNat, 1)
    let factor := quarters.1 * up
    (onGrid? tie (m % 2 == 0) (low * factor) (4 * m * factor) (high * factor)
      (quarters.2 * down)).map fun digits => stripZeros 20 digits unit
  ((List.range 18).findSome? attempt).getD ⟨0, 0⟩

end HeapQuery.Number
