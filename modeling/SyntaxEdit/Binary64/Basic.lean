
namespace SyntaxEdit

structure Binary64 where
  significand : Nat
  exponent : Int
  deriving DecidableEq, Repr

namespace Binary64

def minExponent : Int := -1074

def maxExponent : Int := 971

def hidden : Nat := Nat.pow 2 52

def zero : Binary64 := ⟨0, minExponent⟩

def isZero (x : Binary64) : Bool := x.significand == 0

def scaleFraction (n d : Nat) (k : Int) : Nat × Nat :=
  if 0 ≤ k then (n * Nat.pow 2 k.toNat, d) else (n, d * Nat.pow 2 (-k).toNat)

def divRoundEven (n d : Nat) : Nat :=
  let q := n / d
  let r := n % d
  if 2 * r > d || (2 * r == d && q % 2 == 1) then q + 1 else q

/-- The value nearest to `n * 2 ^ k / d`, or none when it overflows. The exponent is first
chosen so that the quotient lies from `2 ^ 52` up to `2 ^ 53`, then raised to the least
exponent for subnormal results; a significand that rounds up to `2 ^ 53` moves one binade up. -/
def round (n d : Nat) (k : Int) : Option Binary64 :=
  if n == 0 || d == 0 then some zero
  else
    let e₀ : Int := (Nat.log2 n : Int) - Nat.log2 d + k - 52
    let (a₀, b₀) := scaleFraction n d (k - e₀)
    let e₁ := if a₀ / b₀ < hidden then e₀ - 1 else e₀
    let e := max e₁ minExponent
    let (a, b) := scaleFraction n d (k - e)
    let m := divRoundEven a b
    let (m, e) := if m == 2 * hidden then (hidden, e + 1) else (m, e)
    if e > maxExponent then none else some ⟨m, e⟩

def ofNat (n : Nat) : Option Binary64 := round n 1 0

def pow10 (k : Nat) : Option Binary64 := ofNat (Nat.pow 10 k)

def mul (x y : Binary64) : Option Binary64 :=
  round (x.significand * y.significand) 1 (x.exponent + y.exponent)

def div (x y : Binary64) : Option Binary64 :=
  if y.isZero then none else round x.significand y.significand (x.exponent - y.exponent)

end Binary64

end SyntaxEdit
