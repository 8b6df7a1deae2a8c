import ChannelTuning.Proofs.Arguments.Clamping
import ChannelTuning.Proofs.Options.Equality

namespace ChannelTuning

def Arguments.Alike (sent given : Arguments) : Prop :=
  List.Forall₂ (fun first second => first.1 = second.1 ∧ first.2.Equals second.2) sent given

namespace Value

theorem isNumber_of_equal {v w : Value} (same : v.equal w = true) (number : v.IsNumber) :
    w.IsNumber := by
  obtain ⟨x, -, second, -⟩ := (equal_number_iff number).mp same
  exact isNumber_iff.mpr ⟨x, second⟩

theorem limited_equals {v w : Value} (same : v.equal w = true) (number : v.IsNumber) :
    v.limited.Equals w.limited := by
  obtain ⟨x, first, second, real⟩ := (equal_number_iff number).mp same
  simp only [limited, clamped?, first, second, Option.map_some, Option.getD_some]
  -- equal numbers are both above the limit or both not
  by_cases exceeds : x.exceeds largestArgument = true
  · rw [if_pos exceeds, if_pos exceeds]
    exact equals_of_equal (equal_self (.int _))
  · rw [if_neg exceeds, if_neg exceeds]
    exact .number first second real

end Value

namespace Arguments

theorem clamped_of_alike {entries others : Arguments}
    (alike : List.Forall₂ (fun first second => first.1 = second.1 ∧ first.2.equal second.2 = true)
      entries others) :
    (∃ key, clamped entries = .error (.notANumber key) ∧
        clamped others = .error (.notANumber key)) ∨
      ∃ sent given, clamped entries = .ok sent ∧ clamped others = .ok given ∧ sent.Alike given := by
  induction alike with
  | nil => exact .inr ⟨[], [], rfl, rfl, .nil⟩
  | @cons first second rest later here _ previous =>
    obtain ⟨key, v⟩ := first
    obtain ⟨named, w⟩ := second
    obtain ⟨rfl, same⟩ : key = named ∧ v.equal w = true := here
    by_cases number : v.IsNumber
    · have other := Value.isNumber_of_equal same number
      simp only [clamped, Value.clamped?_of_isNumber number, Value.clamped?_of_isNumber other]
      rcases previous with ⟨missing, failed, again⟩ | ⟨sent, given, made, made', both⟩
      · exact .inl ⟨missing, by rw [failed]; rfl, by rw [again]; rfl⟩
      · exact .inr ⟨(key, v.limited) :: sent, (key, w.limited) :: given, by rw [made]; rfl,
          by rw [made']; rfl, .cons ⟨rfl, Value.limited_equals same number⟩ both⟩
    · have other : ¬ w.IsNumber := fun counts =>
        number (Value.isNumber_of_equal (Value.equal_symm same) counts)
      simp only [clamped, Value.clamped?_of_not_isNumber number,
        Value.clamped?_of_not_isNumber other]
      exact .inl ⟨key, rfl, rfl⟩

end Arguments

namespace Options

variable {o p : Options}

theorem source_equal (same : o.equal p = true) (f : Field) :
    (o.source f).equal (p.source f) = true := by
  cases f with
  | setting s => exact equal_iff.mp same s
  | idleTimeout => exact equal_iff.mp same .idleTimeout
  | keepAliveWithoutCalls =>
    have truth := Value.isTruthy_of_equal (equal_iff.mp same .keepAliveWithoutCalls)
    have sources : o.source .keepAliveWithoutCalls = p.source .keepAliveWithoutCalls :=
      congrArg (fun yes : Bool => Value.int (if yes then 1 else 0)) truth
    rw [sources]
    exact Value.equal_self (.int _)

/-- Equal options configure channels equally, of whatever kinds their values are. Their arguments
    are alike, each with the same key and an equal value, or both have none, because the same
    argument lacks a number. -/
theorem equal_options_give_equal_arguments (o p : Options) (same : o.equal p = true) :
    (∃ key, o.arguments = .error (.notANumber key) ∧ p.arguments = .error (.notANumber key)) ∨
      ∃ sent given, o.arguments = .ok sent ∧ p.arguments = .ok given ∧ sent.Alike given := by
  apply Arguments.clamped_of_alike
  rw [argumentSources_eq_map, argumentSources_eq_map, List.forall₂_map_left_iff,
    List.forall₂_map_right_iff, List.forall₂_same]
  exact fun entry _ => ⟨rfl, source_equal same entry.2⟩

/-- Options of other kinds of numbers throughout: a truth value for an integer, a negative zero for
    zero, a floating-point value for an integer that is too large, and a dictionary in another order
    for the permission. With a text for a size both have no arguments. -/
theorem equal_arguments_of_other_kinds :
    let float (negative : Bool) (n : Nat) : Value := .float (.finite negative (.ofParts n 0))
    let entries : List (Value × Value) := [(.int 1, .null), (.text "x", .bool false)]
    let o : Options := { Options.standard with
      keepAliveTime := .bool true, keepAliveTimeout := .int 0
      keepAliveWithoutCalls := .dict entries, flowControlWindow := .int 4294967296 }
    let p : Options := { Options.standard with
      keepAliveTime := float false 1, keepAliveTimeout := float true 0
      keepAliveWithoutCalls := .dict entries.reverse
      flowControlWindow := float false 4294967296 }
    let unsized (q : Options) : Options := { q with maxHeaderListSize := .text "8k" }
    o.equal p = true ∧
      (∃ sent given, o.arguments = .ok sent ∧ p.arguments = .ok given ∧ sent.Alike given) ∧
      ∃ key, (unsized o).arguments = .error (.notANumber key) ∧
        (unsized p).arguments = .error (.notANumber key) := by
  intro float entries o p unsized
  have same : o.equal p = true := by decide +kernel
  have still : (unsized o).equal (unsized p) = true := by decide +kernel
  refine ⟨same, ?_, ?_⟩
  · have accepted : o.arguments = .ok _ := rfl
    rcases equal_options_give_equal_arguments o p same with ⟨key, failed, -⟩ | alike
    · cases accepted.symm.trans failed
    · exact alike
  · have refused : (unsized o).arguments = .error (.notANumber "grpc.max_metadata_size") := rfl
    rcases equal_options_give_equal_arguments _ _ still with missing | ⟨sent, -, made, -⟩
    · exact missing
    · cases refused.symm.trans made

end Options

end ChannelTuning
