namespace ChannelTuning

/-- The shortest decimal that names a magnitude, `coefficient * 10 ^ exponent`. Its coefficient
    ends in a zero only when the magnitude is zero, so a magnitude has one such decimal. -/
structure Decimal where
  coefficient : Nat
  exponent : Int
  canonical : coefficient % 10 ≠ 0 ∨ coefficient = 0 ∧ exponent = 0
  deriving DecidableEq

namespace Decimal

def ofParts (coefficient : Nat) (exponent : Int) : Decimal :=
  if zero : coefficient = 0 then ⟨0, 0, .inr ⟨rfl, rfl⟩⟩
  else if round : coefficient % 10 = 0 then ofParts (coefficient / 10) (exponent + 1)
  else ⟨coefficient, exponent, .inl round⟩
termination_by coefficient

def digits (d : Decimal) : List Char := Nat.toDigits 10 d.coefficient

def point (d : Decimal) : Int := d.digits.length + d.exponent

def positional (digits : List Char) (point : Int) : List Char :=
  if point ≤ 0 then '0' :: '.' :: (List.replicate (-point).toNat '0' ++ digits)
  else if point < digits.length then
    digits.take point.toNat ++ '.' :: digits.drop point.toNat
  else digits ++ List.replicate (point.toNat - digits.length) '0' ++ ['.', '0']

def powerText (power : Int) : List Char :=
  let digits := Nat.toDigits 10 power.natAbs
  (if power < 0 then '-' else '+') :: (if digits.length < 2 then '0' :: digits else digits)

def scientific (digits : List Char) (power : Int) : List Char :=
  digits.take 1 ++ (if digits.length < 2 then [] else '.' :: digits.drop 1) ++
    'e' :: powerText power

def text (d : Decimal) : List Char :=
  if -4 < d.point ∧ d.point ≤ 16 then positional d.digits d.point
  else scientific d.digits (d.point - 1)

def readDigits? (cs : List Char) : Option Nat :=
  if cs ≠ [] ∧ cs.all Char.isDigit then some (Nat.ofDigitChars 10 cs 0) else none

def readPower? : List Char → Option Int
  | [] => some 0
  | 'e' :: '-' :: cs => (readDigits? cs).map fun n => -(n : Int)
  | 'e' :: '+' :: cs => (readDigits? cs).map fun n => (n : Int)
  | 'e' :: cs => (readDigits? cs).map fun n => (n : Int)
  | _ => none

def ofText? (cs : List Char) : Option Decimal := do
  let mantissa := cs.takeWhile (· ≠ 'e')
  let whole := mantissa.takeWhile (· ≠ '.')
  let fraction := (mantissa.dropWhile (· ≠ '.')).drop 1
  let coefficient ← readDigits? (whole ++ fraction)
  let power ← readPower? (cs.dropWhile (· ≠ 'e'))
  return ofParts coefficient (power - fraction.length)

end Decimal

end ChannelTuning
