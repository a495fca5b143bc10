namespace HeapQuery.Number

/-- A binary format: the mantissas have at most `precision` bits, and the exponents of the last
bit lie between `least` and `most`. -/
structure Format where
  precision : Nat
  least : Int
  most : Int
  deriving DecidableEq, Repr

def Format.double : Format := ⟨53, -1074, 971⟩

def Format.single : Format := ⟨24, -149, 104⟩

/-- A floating-point number. A finite one stands for `± mantissa * 2 ^ exponent`. -/
inductive Binary
  | nan
  | infinity (negative : Bool)
  | finite (negative : Bool) (mantissa : Nat) (exponent : Int)
  deriving DecidableEq, Repr, Inhabited

def scale (n : Nat) (e : Int) : Nat × Nat :=
  if 0 ≤ e then (n <<< e.toNat, 1) else (n, 1 <<< (-e).toNat)

def divideToEven (n d : Nat) : Nat :=
  let q := n / d
  let r := n % d
  if 2 * r < d then q else if d < 2 * r then q + 1 else q + q % 2

def divideHalfUp (n d : Nat) : Nat := (2 * n + d) / (2 * d)

def magnitude (n d : Nat) : Int :=
  let k : Int := (Nat.log2 n : Int) - Nat.log2 d
  let s := scale d k
  if n * s.2 < s.1 then k - 1 else k

namespace Binary

def zero (f : Format) (negative : Bool) : Binary := .finite negative 0 f.least

/-- The number of format `f` that is nearest to `± n / d`, the one with the even mantissa where
two are equally near. -/
def ofRatio (f : Format) (negative : Bool) (n d : Nat) : Binary :=
  if n == 0 || d == 0 then zero f negative
  else
    let e := max f.least (magnitude n d - (f.precision - 1))
    let s := scale 1 e
    let m := divideToEven (n * s.2) (d * s.1)
    let (m, e) := if m == 1 <<< f.precision then (m / 2, e + 1) else (m, e)
    if f.most < e then .infinity negative else .finite negative m e

def ratio (m : Nat) (e : Int) : Nat × Nat := scale m e

def ofNat (f : Format) (n : Nat) : Binary := ofRatio f false n 1

/-- The number of format `f` nearest to `± digits * 10 ^ exponent`. Powers of ten far beyond the
format are not computed. -/
def ofDecimal (f : Format) (negative : Bool) (digits : Nat) (exponent : Int) : Binary :=
  let top := exponent + (Nat.toDigits 10 digits).length
  if digits == 0 || top < -400 then zero f negative
  else if 400 < top then .infinity negative
  else if 0 ≤ exponent then ofRatio f negative (digits * Nat.pow 10 exponent.toNat) 1
  else ofRatio f negative digits (Nat.pow 10 (-exponent).toNat)

def isZero : Binary → Bool
  | finite _ m _ => m == 0
  | _ => false

def isNegative : Binary → Bool
  | nan => false
  | infinity n => n
  | finite n _ _ => n

def negate : Binary → Binary
  | nan => nan
  | infinity n => infinity !n
  | finite n m e => finite (!n) m e

def mul (f : Format) (a b : Binary) : Binary :=
  match a, b with
  | finite na ma ea, finite nb mb eb =>
    let s := scale (ma * mb) (ea + eb)
    ofRatio f (na != nb) s.1 s.2
  | nan, _ | _, nan => nan
  | _, _ => if a.isZero || b.isZero then nan else infinity (a.isNegative != b.isNegative)

def div (f : Format) (a b : Binary) : Binary :=
  match a, b with
  | finite na ma ea, finite nb mb eb =>
    if mb == 0 then if ma == 0 then nan else infinity (na != nb)
    else
      let s := scale ma (ea - eb)
      ofRatio f (na != nb) s.1 (s.2 * mb)
  | nan, _ | _, nan | infinity _, infinity _ => nan
  | infinity n, b => infinity (n != b.isNegative)
  | a, infinity n => zero f (a.isNegative != n)

def convert (f : Format) : Binary → Binary
  | finite n m e => ofRatio f n (ratio m e).1 (ratio m e).2
  | special => special

def equals : Binary → Binary → Bool
  | nan, _ | _, nan => false
  | infinity a, infinity b => a == b
  | finite na ma ea, finite nb mb eb => (ma == 0 && mb == 0) || (na == nb && ma == mb && ea == eb)
  | _, _ => false

end Binary

abbrev Double := Binary

abbrev Single := Binary

end HeapQuery.Number
