import ChannelTuning.Number.Decimal

namespace ChannelTuning

inductive Number where
  | finite (value : Rat)
  | infinite (negative : Bool)
  | nan
  deriving DecidableEq

namespace Number

def same : Number → Number → Bool
  | .finite p, .finite q => p == q
  | .infinite s, .infinite t => s == t
  | _, _ => false

def exceeds (limit : Int) : Number → Bool
  | .finite q => decide ((limit : Rat) < q)
  | .infinite negative => !negative
  | .nan => false

end Number

def roundHalfEven (numerator denominator : Nat) : Nat :=
  let whole := numerator / denominator
  let rest := numerator % denominator
  if denominator < 2 * rest ∨ denominator = 2 * rest ∧ whole % 2 = 1 then whole + 1 else whole

namespace Decimal

def quotient (d : Decimal) : Nat × Nat :=
  (d.coefficient * Nat.pow 10 d.exponent.toNat, Nat.pow 10 (-d.exponent).toNat)

/-- The weight of the last of the 53 significant bits of a positive quotient; no bit weighs less
    than `2 ^ -1074`. -/
def lastBit (numerator denominator : Nat) : Int :=
  let top : Int := (numerator.log2 : Int) - denominator.log2
  let below := numerator * Nat.pow 2 (-top).toNat < denominator * Nat.pow 2 top.toNat
  max (-1074) (top - (if below then 53 else 52))

/-- The binary number of 53 significant bits nearest to a decimal, a tie going to the even one.
    Magnitudes that round to `2 ^ 1024` or more are infinite. -/
def nearest (d : Decimal) : Option Rat :=
  let (numerator, denominator) := d.quotient
  if numerator = 0 then some 0
  else
    let weight := lastBit numerator denominator
    let count :=
      roundHalfEven (numerator * Nat.pow 2 (-weight).toNat) (denominator * Nat.pow 2 weight.toNat)
    let value := mkRat (count * Nat.pow 2 weight.toNat : Nat) (Nat.pow 2 (-weight).toNat)
    if value < mkRat (Nat.pow 2 1024 : Nat) 1 then some value else none

end Decimal

end ChannelTuning
