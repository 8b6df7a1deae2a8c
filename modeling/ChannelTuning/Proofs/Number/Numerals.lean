import ChannelTuning.Proofs.Number.Reading

namespace ChannelTuning

def isNumeral (c : Char) : Bool := c.isDigit || ['-', '+', '.', 'e', 'n', 'a', 'i', 'f'].contains c

theorem isNumeral_of_isDigit {c : Char} (digit : c.isDigit = true) : isNumeral c = true := by
  rw [isNumeral, digit, Bool.true_or]

namespace Decimal

theorem isNumeral_of_mem_toDigits {n : Nat} : ∀ c ∈ Nat.toDigits 10 n, isNumeral c = true :=
  fun c inside => isNumeral_of_isDigit (isDigit_of_mem_toDigits c inside)

theorem isNumeral_of_mem_powerText (power : Int) : ∀ c ∈ powerText power, isNumeral c = true := by
  have sign : isNumeral (if power < 0 then '-' else '+') = true := by split <;> rfl
  unfold powerText
  refine List.forall_mem_cons.mpr ⟨sign, ?_⟩
  split
  · exact List.forall_mem_cons.mpr ⟨rfl, isNumeral_of_mem_toDigits⟩
  · exact isNumeral_of_mem_toDigits

theorem isNumeral_of_mem_positional {digits : List Char} (all : ∀ c ∈ digits, isNumeral c = true)
    (point : Int) : ∀ c ∈ positional digits point, isNumeral c = true := by
  have zeros : ∀ count, ∀ c ∈ List.replicate count '0', isNumeral c = true :=
    fun _ c inside => isNumeral_of_isDigit (isDigit_of_mem_zeros c inside)
  unfold positional
  split
  · refine List.forall_mem_cons.mpr ⟨rfl, List.forall_mem_cons.mpr ⟨rfl, ?_⟩⟩
    exact List.forall_mem_append.mpr ⟨zeros _, all⟩
  · split
    · refine List.forall_mem_append.mpr ⟨?_, List.forall_mem_cons.mpr ⟨rfl, ?_⟩⟩
      · exact fun c inside => all c (List.mem_of_mem_take inside)
      · exact fun c inside => all c (List.mem_of_mem_drop inside)
    · have point : ∀ c ∈ ['.', '0'], isNumeral c = true := List.all_eq_true.mp rfl
      exact List.forall_mem_append.mpr ⟨List.forall_mem_append.mpr ⟨all, zeros _⟩, point⟩

theorem isNumeral_of_mem_scientific {digits : List Char} (all : ∀ c ∈ digits, isNumeral c = true)
    (power : Int) : ∀ c ∈ scientific digits power, isNumeral c = true := by
  have fraction : ∀ c ∈ (if digits.length < 2 then [] else '.' :: digits.drop 1),
      isNumeral c = true := by
    split
    · exact List.forall_mem_nil _
    · refine List.forall_mem_cons.mpr ⟨rfl, ?_⟩
      exact fun c inside => all c (List.mem_of_mem_drop inside)
  unfold scientific
  refine List.forall_mem_append.mpr ⟨List.forall_mem_append.mpr ⟨?_, fraction⟩, ?_⟩
  · exact fun c inside => all c (List.mem_of_mem_take inside)
  · exact List.forall_mem_cons.mpr ⟨rfl, isNumeral_of_mem_powerText power⟩

theorem isNumeral_of_mem_text (d : Decimal) : ∀ c ∈ d.text, isNumeral c = true := by
  unfold text
  split
  · exact isNumeral_of_mem_positional isNumeral_of_mem_toDigits d.point
  · exact isNumeral_of_mem_scientific isNumeral_of_mem_toDigits (d.point - 1)

theorem mark_mem_text (d : Decimal) : '.' ∈ d.text ∨ 'e' ∈ d.text := by
  unfold text
  split
  · left
    unfold positional
    split
    · simp
    · split <;> simp
  · right
    simp [scientific]

end Decimal

namespace Floating

theorem isNumeral_of_mem_text (x : Floating) : ∀ c ∈ x.text, isNumeral c = true := by
  have sign : ∀ negative, ∀ c ∈ signText negative, isNumeral c = true := by
    intro negative
    refine List.all_eq_true.mp ?_
    cases negative <;> rfl
  cases x with
  | nan => exact List.all_eq_true.mp rfl
  | infinite negative =>
    exact List.forall_mem_append.mpr ⟨sign negative, List.all_eq_true.mp rfl⟩
  | finite negative magnitude =>
    exact List.forall_mem_append.mpr ⟨sign negative, magnitude.isNumeral_of_mem_text⟩

theorem text_injective {x y : Floating} (same : x.text = y.text) : x = y := by
  have read := x.ofText?_text
  rw [same, y.ofText?_text] at read
  exact (Option.some.inj read).symm

theorem exists_mark_mem_text (x : Floating) : ∃ c ∈ x.text, c.isDigit = false ∧ c ≠ '-' := by
  cases x with
  | nan => exact ⟨'n', by decide, by decide, by decide⟩
  | infinite negative => exact ⟨'i', by simp [text], by decide, by decide⟩
  | finite negative magnitude =>
    rcases magnitude.mark_mem_text with point | power
    · exact ⟨'.', List.mem_append_right _ point, by decide, by decide⟩
    · exact ⟨'e', List.mem_append_right _ power, by decide, by decide⟩

end Floating

def integerText (n : Int) : List Char :=
  if n < 0 then '-' :: Nat.toDigits 10 n.natAbs else Nat.toDigits 10 n.natAbs

def readInteger? : List Char → Option Int
  | '-' :: cs => (Decimal.readDigits? cs).map fun n => -(n : Int)
  | cs => (Decimal.readDigits? cs).map fun n => (n : Int)

theorem toList_toString_int (n : Int) : (toString n).toList = integerText n := by
  rw [Int.toString_eq_repr, Int.repr_eq_if, integerText]
  by_cases negative : n < 0
  · have magnitude : (-n).toNat = n.natAbs := by omega
    rw [if_neg (by omega), if_pos negative, magnitude, String.toList_append, Nat.toList_repr]
    rfl
  · have magnitude : n.toNat = n.natAbs := by omega
    rw [if_pos (by omega), if_neg negative, magnitude, Nat.toList_repr]

theorem integerText_starts (n : Int) :
    ∃ c rest, integerText n = c :: rest ∧ (c.isDigit = true ∨ c = '-') := by
  obtain ⟨c, rest, digits⟩ := List.exists_cons_of_ne_nil
    (Nat.toDigits_ne_nil : Nat.toDigits 10 n.natAbs ≠ [])
  have digit : c.isDigit = true := Decimal.isDigit_of_mem_toDigits c (by rw [digits]; exact .head _)
  unfold integerText
  split
  · exact ⟨_, _, rfl, .inr rfl⟩
  · exact ⟨c, rest, digits, .inl digit⟩

theorem digit_or_sign_of_mem_integerText (n : Int) :
    ∀ c ∈ integerText n, c.isDigit = true ∨ c = '-' := by
  have digits : ∀ c ∈ Nat.toDigits 10 n.natAbs, c.isDigit = true ∨ c = '-' :=
    fun c inside => .inl (Decimal.isDigit_of_mem_toDigits c inside)
  unfold integerText
  split
  · exact List.forall_mem_cons.mpr ⟨.inr rfl, digits⟩
  · exact digits

theorem readInteger?_integerText (n : Int) : readInteger? (integerText n) = some n := by
  have digits := Decimal.readDigits?_toDigits n.natAbs
  unfold integerText
  split
  · have value : -(n.natAbs : Int) = n := by omega
    simp only [readInteger?, digits]
    exact congrArg some value
  · have value : (n.natAbs : Int) = n := by omega
    unfold readInteger?
    split
    · rename_i same
      have sign : '-' ∈ Nat.toDigits 10 n.natAbs := by rw [same]; exact .head _
      exact absurd (Decimal.isDigit_of_mem_toDigits _ sign) (by decide)
    · rw [digits]
      exact congrArg some value

theorem integerText_injective {m n : Int} (same : integerText m = integerText n) : m = n := by
  have read := readInteger?_integerText m
  rw [same, readInteger?_integerText] at read
  exact (Option.some.inj read).symm

theorem integerText_ne_text (n : Int) (x : Floating) : integerText n ≠ x.text := by
  intro same
  obtain ⟨c, inside, notDigit, notSign⟩ := x.exists_mark_mem_text
  rw [← same] at inside
  rcases digit_or_sign_of_mem_integerText n c inside with digit | sign
  · rw [notDigit] at digit
    cases digit
  · exact notSign sign

end ChannelTuning
