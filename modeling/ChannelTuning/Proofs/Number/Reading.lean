import Mathlib.Algebra.Group.Nat.Defs
import ChannelTuning.Number.Floating
import ChannelTuning.Proofs.Text.Cutting

namespace ChannelTuning

namespace Decimal

theorem readDigits?_of_isDigit {cs : List Char} (present : cs ≠ [])
    (digits : ∀ c ∈ cs, c.isDigit = true) :
    readDigits? cs = some (Nat.ofDigitChars 10 cs 0) :=
  if_pos ⟨present, List.all_eq_true.mpr digits⟩

theorem isDigit_of_mem_toDigits {n : Nat} : ∀ c ∈ Nat.toDigits 10 n, c.isDigit = true :=
  fun _ inside => Nat.isDigit_of_mem_toDigits (by decide) (by decide) inside

theorem readDigits?_toDigits (n : Nat) : readDigits? (Nat.toDigits 10 n) = some n := by
  rw [readDigits?_of_isDigit Nat.toDigits_ne_nil isDigit_of_mem_toDigits,
    Nat.ofDigitChars_ten_toDigits]

theorem isDigit_of_mem_zeros {count : Nat} : ∀ c ∈ List.replicate count '0', c.isDigit = true := by
  intro c inside
  rw [List.eq_of_mem_replicate inside]
  rfl

theorem ofParts_self (d : Decimal) : ofParts d.coefficient d.exponent = d := by
  obtain ⟨coefficient, exponent, canonical⟩ := d
  rw [ofParts]
  rcases canonical with last | ⟨rfl, rfl⟩
  · have positive : coefficient ≠ 0 := fun zero => last (by rw [zero])
    simp only [dif_neg positive, dif_neg last]
  · rfl

theorem ofParts_zero (exponent : Int) : ofParts 0 exponent = ⟨0, 0, .inr ⟨rfl, rfl⟩⟩ := by
  rw [ofParts]
  rfl

theorem ofParts_shift {coefficient : Nat} (positive : coefficient ≠ 0) (exponent : Int) :
    ofParts (coefficient * 10) exponent = ofParts coefficient (exponent + 1) := by
  have product : coefficient * 10 ≠ 0 := by omega
  have round : coefficient * 10 % 10 = 0 := by omega
  have quotient : coefficient * 10 / 10 = coefficient := by omega
  rw [ofParts, dif_neg product, dif_pos round, quotient]

theorem ofParts_shift_pow (d : Decimal) (count : Nat) :
    ofParts (d.coefficient * 10 ^ count) (d.exponent - count) = d := by
  by_cases zero : d.coefficient = 0
  · have alone := d.ofParts_self
    rw [zero, ofParts_zero] at alone
    rw [zero, Nat.zero_mul, ofParts_zero]
    exact alone
  · induction count with
    | zero => simpa using d.ofParts_self
    | succ count previous =>
      have power : 0 < 10 ^ count := Nat.pow_pos (by decide)
      have positive : d.coefficient * 10 ^ count ≠ 0 := Nat.mul_ne_zero zero (by omega)
      have exponent : d.exponent - (count + 1 : Nat) + 1 = d.exponent - count := by omega
      rw [Nat.pow_succ, ← Nat.mul_assoc, ofParts_shift positive, exponent]
      exact previous

def IsFraction (digits : List Char) (text : List Char) : Prop :=
  text = '.' :: digits ∨ digits = [] ∧ text = []

theorem ofText?_of_parts (whole fraction digits tail : List Char) {power : Int}
    (present : whole ≠ []) (wholeDigits : ∀ c ∈ whole, c.isDigit = true)
    (fractionDigits : ∀ c ∈ digits, c.isDigit = true) (point : IsFraction digits fraction)
    (mark : ∀ c ∈ tail.head?, c = 'e') (read : readPower? tail = some power) :
    ofText? (whole ++ fraction ++ tail) =
      some (ofParts (Nat.ofDigitChars 10 (whole ++ digits) 0) (power - digits.length)) := by
  have notMark : ∀ c ∈ whole ++ fraction, decide (c ≠ 'e') = true := by
    intro c inside
    rw [decide_eq_true_eq]
    rintro rfl
    rcases List.mem_append.mp inside with first | second
    · exact absurd (wholeDigits _ first) (by decide)
    · rcases point with rfl | ⟨-, rfl⟩
      · rcases List.mem_cons.mp second with point | digit
        · cases point
        · exact absurd (fractionDigits _ digit) (by decide)
      · cases second
  have notPoint : ∀ c ∈ whole, decide (c ≠ '.') = true := by
    intro c inside
    rw [decide_eq_true_eq]
    rintro rfl
    exact absurd (wholeDigits _ inside) (by decide)
  have marked : ∀ c ∈ tail.head?, decide (c ≠ 'e') = false := by
    intro c first
    simp [mark c first]
  have pointed : ∀ c ∈ fraction.head?, decide (c ≠ '.') = false := by
    rcases point with rfl | ⟨-, rfl⟩ <;> simp
  have after : fraction.drop 1 = digits := by
    rcases point with rfl | ⟨rfl, rfl⟩ <;> rfl
  have all : ∀ c ∈ whole ++ digits, c.isDigit = true := by
    intro c inside
    rcases List.mem_append.mp inside with first | second
    · exact wholeDigits c first
    · exact fractionDigits c second
  have coefficient := readDigits?_of_isDigit (List.append_ne_nil_of_left_ne_nil present digits) all
  simp only [ofText?, Text.takeWhile_append_of_head notMark marked,
    Text.dropWhile_append_of_head notMark marked, Text.takeWhile_append_of_head notPoint pointed,
    Text.dropWhile_append_of_head notPoint pointed, after, coefficient, read]
  rfl

theorem length_digits_pos (d : Decimal) : 0 < d.digits.length := Nat.length_toDigits_pos

theorem isDigit_of_mem_digits {d : Decimal} : ∀ c ∈ d.digits, c.isDigit = true :=
  isDigit_of_mem_toDigits

theorem ofDigitChars_digits (d : Decimal) : Nat.ofDigitChars 10 d.digits 0 = d.coefficient :=
  Nat.ofDigitChars_ten_toDigits

theorem ofText?_positional (d : Decimal) : ofText? (positional d.digits d.point) = some d := by
  have long := d.length_digits_pos
  have point : d.point = d.digits.length + d.exponent := rfl
  unfold positional
  split
  · -- zeros before the digits, which count for nothing
    let zeros := List.replicate (-d.point).toNat '0'
    have digits : ∀ c ∈ zeros ++ d.digits, c.isDigit = true := by
      intro c inside
      rcases List.mem_append.mp inside with zero | digit
      · exact isDigit_of_mem_zeros c zero
      · exact isDigit_of_mem_digits c digit
    have read := ofText?_of_parts ['0'] ('.' :: (zeros ++ d.digits)) (zeros ++ d.digits) []
      (by decide) (List.all_eq_true.mp rfl) digits (.inl rfl) (by simp) rfl
    have coefficient : Nat.ofDigitChars 10 (['0'] ++ (zeros ++ d.digits)) 0 = d.coefficient := by
      rw [Nat.ofDigitChars_append, Nat.ofDigitChars_append, Nat.ofDigitChars_replicate_zero]
      exact d.ofDigitChars_digits
    have exponent : (0 : Int) - (zeros ++ d.digits).length = d.exponent := by
      rw [List.length_append, List.length_replicate]
      omega
    rw [List.append_nil, coefficient, exponent, ofParts_self] at read
    exact read
  · split
    · -- the point among the digits
      have whole : ∀ c ∈ d.digits.take d.point.toNat, c.isDigit = true :=
        fun c inside => isDigit_of_mem_digits c (List.mem_of_mem_take inside)
      have fraction : ∀ c ∈ d.digits.drop d.point.toNat, c.isDigit = true :=
        fun c inside => isDigit_of_mem_digits c (List.mem_of_mem_drop inside)
      have present : d.digits.take d.point.toNat ≠ [] := by
        rw [← List.length_pos_iff, List.length_take]
        omega
      have read := ofText?_of_parts _ _ _ [] present whole fraction (.inl rfl) (by simp) rfl
      have exponent : (0 : Int) - (d.digits.drop d.point.toNat).length = d.exponent := by
        rw [List.length_drop]
        omega
      rw [List.append_nil, List.take_append_drop, d.ofDigitChars_digits, exponent,
        ofParts_self] at read
      exact read
    · -- zeros after the digits, which make for a larger coefficient
      let zeros := List.replicate (d.point.toNat - d.digits.length) '0'
      have whole : ∀ c ∈ d.digits ++ zeros, c.isDigit = true := by
        intro c inside
        rcases List.mem_append.mp inside with digit | zero
        · exact isDigit_of_mem_digits c digit
        · exact isDigit_of_mem_zeros c zero
      have present : d.digits ++ zeros ≠ [] :=
        List.append_ne_nil_of_left_ne_nil (List.length_pos_iff.mp long) zeros
      have read := ofText?_of_parts (d.digits ++ zeros) ['.', '0'] ['0'] [] present whole
        (List.all_eq_true.mp rfl) (.inl rfl) (by simp) rfl
      have coefficient : Nat.ofDigitChars 10 (d.digits ++ zeros ++ ['0']) 0 =
          d.coefficient * 10 ^ (zeros.length + 1) := by
        rw [Nat.ofDigitChars_append, Nat.ofDigitChars_append, d.ofDigitChars_digits,
          Nat.ofDigitChars_replicate_zero, List.length_replicate, Nat.pow_succ]
        simp [Nat.ofDigitChars_cons, Nat.mul_comm, Nat.mul_left_comm]
      have exponent : (0 : Int) - (['0'] : List Char).length =
          d.exponent - (zeros.length + 1 : Nat) := by
        rw [List.length_replicate, List.length_singleton]
        omega
      rw [List.append_nil, coefficient, exponent, ofParts_shift_pow] at read
      exact read

theorem readPower?_powerText (power : Int) : readPower? ('e' :: powerText power) = some power := by
  have digits : readDigits? (if (Nat.toDigits 10 power.natAbs).length < 2
      then '0' :: Nat.toDigits 10 power.natAbs else Nat.toDigits 10 power.natAbs) =
        some power.natAbs := by
    split
    · rw [readDigits?_of_isDigit (List.cons_ne_nil _ _)
        (List.forall_mem_cons.mpr ⟨rfl, isDigit_of_mem_toDigits⟩)]
      exact congrArg some Nat.ofDigitChars_ten_toDigits
    · exact readDigits?_toDigits power.natAbs
  unfold powerText
  dsimp only
  by_cases negative : power < 0
  · have value : -(power.natAbs : Int) = power := by omega
    rw [if_pos negative]
    simp only [readPower?, digits]
    exact congrArg some value
  · have value : (power.natAbs : Int) = power := by omega
    rw [if_neg negative]
    simp only [readPower?, digits]
    exact congrArg some value

theorem ofText?_scientific (d : Decimal) :
    ofText? (scientific d.digits (d.point - 1)) = some d := by
  have long := d.length_digits_pos
  have point : d.point = d.digits.length + d.exponent := rfl
  have whole : ∀ c ∈ d.digits.take 1, c.isDigit = true :=
    fun c inside => isDigit_of_mem_digits c (List.mem_of_mem_take inside)
  have fraction : ∀ c ∈ d.digits.drop 1, c.isDigit = true :=
    fun c inside => isDigit_of_mem_digits c (List.mem_of_mem_drop inside)
  have present : d.digits.take 1 ≠ [] := by
    rw [← List.length_pos_iff, List.length_take]
    omega
  have pointed : IsFraction (d.digits.drop 1)
      (if d.digits.length < 2 then [] else '.' :: d.digits.drop 1) := by
    split
    · rename_i short
      exact .inr ⟨List.drop_eq_nil_of_le (by omega), rfl⟩
    · exact .inl rfl
  have read := ofText?_of_parts _ _ _ ('e' :: powerText (d.point - 1)) present whole fraction pointed
    (by simp) (readPower?_powerText (d.point - 1))
  have exponent : d.point - 1 - (d.digits.drop 1).length = d.exponent := by
    rw [List.length_drop]
    omega
  rw [List.take_append_drop, d.ofDigitChars_digits, exponent, ofParts_self] at read
  exact read

theorem ofText?_text (d : Decimal) : ofText? d.text = some d := by
  unfold text
  split
  · exact d.ofText?_positional
  · exact d.ofText?_scientific

theorem text_starts (d : Decimal) : ∃ c rest, d.text = c :: rest ∧ c.isDigit = true := by
  obtain ⟨c, rest, digits⟩ := List.exists_cons_of_length_pos d.length_digits_pos
  have digit : c.isDigit = true := isDigit_of_mem_digits c (by rw [digits]; exact .head _)
  unfold text
  split
  · unfold positional
    split
    · exact ⟨_, _, rfl, rfl⟩
    · split
      · rename_i above _
        obtain ⟨before, whole⟩ : ∃ before, d.point.toNat = before + 1 :=
          ⟨d.point.toNat - 1, by omega⟩
        rw [digits, whole, List.take_succ_cons]
        exact ⟨c, _, rfl, digit⟩
      · rw [digits]
        exact ⟨c, _, rfl, digit⟩
  · rw [scientific, digits]
    exact ⟨c, _, rfl, digit⟩

end Decimal

namespace Floating

theorem readUnsigned?_text (negative : Bool) (magnitude : Decimal) :
    readUnsigned? negative magnitude.text = some (.finite negative magnitude) := by
  obtain ⟨c, rest, starts, digit⟩ := magnitude.text_starts
  have finite : magnitude.text ≠ ['i', 'n', 'f'] := by
    intro same
    rw [starts] at same
    rw [(List.cons.inj same).1] at digit
    cases digit
  rw [readUnsigned?, if_neg finite, magnitude.ofText?_text]
  rfl

theorem ofText?_text (x : Floating) : ofText? (String.ofList x.text) = some x := by
  unfold ofText?
  rw [String.toList_ofList]
  cases x with
  | nan => rfl
  | infinite negative => cases negative <;> rfl
  | finite negative magnitude =>
    cases negative with
    | true => exact readUnsigned?_text true magnitude
    | false =>
      obtain ⟨c, rest, starts, digit⟩ := magnitude.text_starts
      have read := readUnsigned?_text false magnitude
      rw [text, signText, if_neg Bool.false_ne_true, List.nil_append]
      rw [starts] at read ⊢
      -- a digit starts neither of the other two forms
      split
      · rename_i same
        rw [(List.cons.inj same).1] at digit
        cases digit
      · rename_i same
        rw [(List.cons.inj same).1] at digit
        cases digit
      · exact read

end Floating

end ChannelTuning
