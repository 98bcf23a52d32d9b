import SyntaxEdit.Binary64.Basic

namespace SyntaxEdit.Binary64

def compareScaled (c : Nat) (k : Int) (a : Nat) (f : Int) : Ordering :=
  compare (c * Nat.pow 10 k.toNat * Nat.pow 2 (-f).toNat)
    (a * Nat.pow 2 f.toNat * Nat.pow 10 (-k).toNat)

/-- Whether the decimal `c * 10 ^ k` reads back as `x`. The interval is measured in quarters of
`x`'s last place: it runs from two quarters below `x` (one at the bottom of a binade, where the
gap below is half as wide) to two quarters above. -/
def readsBack (x : Binary64) (c : Nat) (k : Int) : Bool :=
  let f := x.exponent - 2
  let v := 4 * x.significand
  let lo := if x.significand == hidden && x.exponent > minExponent then v - 1 else v - 2
  let hi := v + 2
  let closed := x.significand % 2 == 0
  let above := compareScaled c k lo f
  let below := compareScaled c k hi f
  (above == .gt || (closed && above == .eq)) && (below == .lt || (closed && below == .eq))

def tenPowLe (x : Binary64) (k : Int) : Bool :=
  compareScaled 1 k x.significand x.exponent != .gt

/-- The decimal exponent of a nonzero `x`: the `E` with `10 ^ E ≤ x < 10 ^ (E + 1)`. The
estimate from the binary exponent is off by at most one either way. -/
def decimalExponent (x : Binary64) : Int :=
  let l : Int := (Nat.log2 x.significand : Int) + x.exponent
  let e₀ := l * 30103 / 100000
  let e₁ := if tenPowLe x e₀ then e₀ else e₀ - 1
  if tenPowLe x (e₁ + 1) then e₁ + 1 else e₁

def tenthsFraction (x : Binary64) (k : Int) : Nat × Nat :=
  (x.significand * Nat.pow 2 x.exponent.toNat * Nat.pow 10 (-k).toNat,
    Nat.pow 2 (-x.exponent).toNat * Nat.pow 10 k.toNat)

/-- The decimal of `p` significant digits that reads back as `x`, if there is one: of the two
grid points around `x`, the one inside the interval, or the nearer when both are. -/
def digitsAt (x : Binary64) (p : Nat) : Option (Nat × Int) :=
  let k := decimalExponent x - p + 1
  let (num, den) := tenthsFraction x k
  let c := num / den
  let r := num % den
  let down := readsBack x c k
  let up := readsBack x (c + 1) k
  if down && up then
    if 2 * r < den || (2 * r == den && c % 2 == 0) then some (c, k) else some (c + 1, k)
  else if down then some (c, k)
  else if up then some (c + 1, k)
  else none

def dropZeros : Nat → Nat → Int → Nat × Int
  | 0, c, k => (c, k)
  | fuel + 1, c, k => if c != 0 && c % 10 == 0 then dropZeros fuel (c / 10) (k + 1) else (c, k)

/-- The shortest decimal `digits * 10 ^ exponent` of a nonzero value, with no zero at the end of
`digits`. -/
def shortest (x : Binary64) : Nat × Int :=
  let k := decimalExponent x - 16
  let nearest := (divRoundEven (tenthsFraction x k).1 (tenthsFraction x k).2, k)
  let (c, k) := ((List.range 17).findSome? fun i => digitsAt x (i + 1)).getD nearest
  dropZeros 20 c k

end SyntaxEdit.Binary64
