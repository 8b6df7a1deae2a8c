import ChannelTuning.Value

namespace ChannelTuning

/-- A number is strictly greater than an integer. What is not a number is greater than none. -/
inductive Number.Above (limit : Int) : Number → Prop
  | finite {q : Rat} (greater : (limit : Rat) < q) : Above limit (.finite q)
  | infinite : Above limit (.infinite false)

theorem Number.exceeds_iff_above {limit : Int} {x : Number} :
    x.exceeds limit = true ↔ x.Above limit := by
  constructor
  · intro exceeds
    cases x with
    | finite q => exact .finite (of_decide_eq_true exceeds)
    | infinite negative =>
      cases negative with
      | false => exact .infinite
      | true => cases exceeds
    | nan => cases exceeds
  · intro above
    cases above with
    | finite greater => exact decide_eq_true greater
    | infinite => rfl

namespace Value

inductive IsNumber : Value → Prop
  | bool (b : Bool) : IsNumber (.bool b)
  | int (n : Int) : IsNumber (.int n)
  | float (x : Floating) : IsNumber (.float x)

/-- The values that count as false. Both zeros of the floating-point values are among them. -/
inductive IsFalse : Value → Prop
  | null : IsFalse .null
  | bool : IsFalse (.bool false)
  | int : IsFalse (.int 0)
  | float {x : Floating} (zero : x.number = .finite 0) : IsFalse (.float x)
  | text : IsFalse (.text "")
  | bytes : IsFalse (.bytes [])
  | list : IsFalse (.list [])
  | tuple : IsFalse (.tuple [])
  | dict : IsFalse (.dict [])

theorem isNumber_iff {v : Value} : v.IsNumber ↔ ∃ x, v.number? = some x := by
  constructor
  · intro number
    cases number with
    | bool b => exact ⟨_, rfl⟩
    | int n => exact ⟨_, rfl⟩
    | float x => exact ⟨_, rfl⟩
  · rintro ⟨x, number⟩
    cases v with
    | bool b => exact .bool b
    | int n => exact .int n
    | float y => exact .float y
    | _ => cases number

theorem isTruthy_eq_false_iff {v : Value} : v.isTruthy = false ↔ v.IsFalse := by
  constructor
  · intro falsy
    cases v with
    | null => exact .null
    | bool b =>
      obtain rfl : b = false := falsy
      exact .bool
    | int n =>
      obtain rfl : n = 0 := by simpa [isTruthy] using falsy
      exact .int
    | float x => exact .float (by simpa [isTruthy] using falsy)
    | text s =>
      obtain rfl : s = "" := by simpa [isTruthy] using falsy
      exact .text
    | bytes data =>
      obtain rfl : data = [] := by simpa [isTruthy] using falsy
      exact .bytes
    | list items =>
      obtain rfl : items = [] := by simpa [isTruthy] using falsy
      exact .list
    | tuple items =>
      obtain rfl : items = [] := by simpa [isTruthy] using falsy
      exact .tuple
    | dict entries =>
      obtain rfl : entries = [] := by simpa [isTruthy] using falsy
      exact .dict
    | transport t => cases falsy
    | code c => cases falsy
  · intro falsy
    cases falsy with
    | float zero => simp [isTruthy, zero]
    | _ => rfl

instance (v : Value) : Decidable v.IsFalse :=
  decidable_of_iff (v.isTruthy = false) isTruthy_eq_false_iff

theorem isTruthy_eq_true_iff {v : Value} : v.isTruthy = true ↔ ¬ v.IsFalse := by
  rw [← isTruthy_eq_false_iff, Bool.not_eq_false]

end Value

end ChannelTuning
