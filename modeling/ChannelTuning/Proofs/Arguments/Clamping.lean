import ChannelTuning.Proofs.Arguments.Limits
import ChannelTuning.Proofs.Value.Kinds

namespace ChannelTuning

/-- What a channel is given for a number: the number itself, of whatever kind it is, unless it is
    strictly greater than the largest C int. That one is given in its place, as an integer. -/
inductive Value.Limited : Value → Value → Prop
  | bool (b : Bool) : Limited (.bool b) (.bool b)
  | int {n : Int} (within : n ≤ 2147483647) : Limited (.int n) (.int n)
  | largeInt {n : Int} (above : 2147483647 < n) : Limited (.int n) (.int 2147483647)
  | float {x : Floating} (within : ¬ x.number.Above 2147483647) : Limited (.float x) (.float x)
  | largeFloat {x : Floating} (above : x.number.Above 2147483647) :
      Limited (.float x) (.int 2147483647)

def argumentFields : List (String × Field) :=
  [("grpc.keepalive_time_ms", Setting.amount .keepAliveTime),
    ("grpc.keepalive_timeout_ms", Setting.amount .keepAliveTimeout),
    ("grpc.keepalive_permit_without_calls", .keepAliveWithoutCalls),
    ("grpc.http2.min_time_between_pings_ms", Setting.amount .keepAliveTime),
    ("grpc.client_idle_timeout_ms", .idleTimeout),
    ("grpc.max_metadata_size", Setting.amount .maxHeaderListSize),
    ("grpc.max_receive_message_length", Setting.amount .maxInboundMessageSize),
    ("grpc.http2.lookahead_bytes", Setting.amount .flowControlWindow)]

def numberFields : List Field :=
  [Setting.amount .keepAliveTime, Setting.amount .keepAliveTimeout, .idleTimeout,
    Setting.amount .maxHeaderListSize, Setting.amount .maxInboundMessageSize,
    Setting.amount .flowControlWindow]

/-- What a channel is given for a field of an option. Whether pings without calls are permitted is
    told by a zero or a one, whatever value the field holds. -/
inductive Options.Gives (o : Options) : Field → Value → Prop
  | number {f : Field} {w : Value} (listed : f ∈ numberFields) (limited : (o.get f).Limited w) :
      Gives o f w
  | forbidden (no : o.keepAliveWithoutCalls.IsFalse) : Gives o .keepAliveWithoutCalls (.int 0)
  | permitted (yes : ¬ o.keepAliveWithoutCalls.IsFalse) : Gives o .keepAliveWithoutCalls (.int 1)

namespace Value

def limited (v : Value) : Value := v.clamped?.getD v

theorem clamped?_of_not_isNumber {v : Value} (other : ¬ v.IsNumber) : v.clamped? = none := by
  rw [clamped?, Option.map_eq_none_iff, Option.eq_none_iff_forall_ne_some]
  intro x number
  exact other (isNumber_iff.mpr ⟨x, number⟩)

theorem clamped?_of_isNumber {v : Value} (number : v.IsNumber) : v.clamped? = some v.limited := by
  obtain ⟨x, same⟩ := isNumber_iff.mp number
  rw [limited, clamped?, same]
  rfl

theorem clamped?_float (x : Floating) :
    (float x).clamped? =
      some (if x.number.exceeds largestArgument then .int largestArgument else .float x) :=
  rfl

theorem IsNumber.limited {v : Value} (number : v.IsNumber) : v.Limited v.limited := by
  cases number with
  | bool b =>
    cases b with
    | false => exact .bool false
    | true => exact .bool true
  | int n =>
    rw [Value.limited, clamped?_int]
    by_cases within : n ≤ largestArgument
    · rw [Int.min_eq_left within]
      exact .int within
    · have above := Int.not_le.mp within
      rw [Int.min_eq_right (Int.le_of_lt above)]
      exact .largeInt above
  | float x =>
    rw [Value.limited, clamped?_float]
    by_cases exceeds : x.number.exceeds largestArgument = true
    · rw [if_pos exceeds]
      exact .largeFloat (Number.exceeds_iff_above.mp exceeds)
    · rw [if_neg exceeds]
      exact .float fun above => exceeds (Number.exceeds_iff_above.mpr above)

theorem Limited.unique {v w u : Value} (first : v.Limited w) (second : v.Limited u) : w = u := by
  cases first with
  | bool b =>
    cases second
    rfl
  | int within =>
    cases second with
    | int _ => rfl
    | largeInt above => exact absurd above (Int.not_lt.mpr within)
  | largeInt above =>
    cases second with
    | int within => exact absurd above (Int.not_lt.mpr within)
    | largeInt _ => rfl
  | float within =>
    cases second with
    | float _ => rfl
    | largeFloat above => exact absurd above within
  | largeFloat above =>
    cases second with
    | float within => exact absurd above within
    | largeFloat _ => rfl

end Value

namespace Arguments

theorem clamped_of_numbers {entries : Arguments} (numbers : ∀ entry ∈ entries, entry.2.IsNumber) :
    clamped entries = .ok (entries.map fun entry => (entry.1, entry.2.limited)) := by
  induction entries with
  | nil => rfl
  | cons entry rest previous =>
    obtain ⟨first, later⟩ := List.forall_mem_cons.mp numbers
    simp only [clamped, Value.clamped?_of_isNumber first, previous later, Except.map, List.map_cons]

theorem isNumber_of_clamped_ok {entries arguments : Arguments}
    (done : clamped entries = .ok arguments) : ∀ entry ∈ entries, entry.2.IsNumber := by
  induction entries generalizing arguments with
  | nil => exact List.forall_mem_nil _
  | cons entry rest previous =>
    by_cases number : entry.2.IsNumber
    · simp only [clamped, Value.clamped?_of_isNumber number] at done
      cases later : clamped rest with
      | ok others => exact List.forall_mem_cons.mpr ⟨number, previous later⟩
      | error fault => rw [later] at done; cases done
    · simp only [clamped, Value.clamped?_of_not_isNumber number] at done
      cases done

theorem exists_of_clamped_error {entries : Arguments} {fault : Fault}
    (failed : clamped entries = .error fault) :
    ∃ key v, (key, v) ∈ entries ∧ ¬ v.IsNumber ∧ fault = .notANumber key := by
  induction entries with
  | nil => cases failed
  | cons entry rest previous =>
    obtain ⟨key, v⟩ := entry
    by_cases number : v.IsNumber
    · simp only [clamped, Value.clamped?_of_isNumber number] at failed
      cases later : clamped rest with
      | ok others => rw [later] at failed; cases failed
      | error cause =>
        rw [later] at failed
        cases failed
        obtain ⟨named, w, listed, other, same⟩ := previous later
        exact ⟨named, w, .tail _ listed, other, same⟩
    · simp only [clamped, Value.clamped?_of_not_isNumber number] at failed
      cases failed
      exact ⟨key, v, .head _, number, rfl⟩

end Arguments

namespace Options

variable {o : Options}

theorem Gives.unique {f : Field} {w u : Value} (first : o.Gives f w) (second : o.Gives f u) :
    w = u := by
  cases first with
  | number listed limited =>
    cases second with
    | number _ other => exact limited.unique other
    | _ => exact absurd listed (by decide)
  | forbidden no =>
    cases second with
    | number listed _ => exact absurd listed (by decide)
    | forbidden _ => rfl
    | permitted yes => exact absurd no yes
  | permitted yes =>
    cases second with
    | number listed _ => exact absurd listed (by decide)
    | forbidden no => exact absurd no yes
    | permitted _ => rfl

def source (o : Options) : Field → Value
  | .keepAliveWithoutCalls => .int (if o.keepAliveWithoutCalls.isTruthy then 1 else 0)
  | f => o.get f

theorem argumentSources_eq_map (o : Options) :
    o.argumentSources = argumentFields.map fun (key, f) => (key, o.source f) :=
  rfl

theorem mem_numberFields_or_eq {key : String} {f : Field} (listed : (key, f) ∈ argumentFields) :
    f ∈ numberFields ∨ f = .keepAliveWithoutCalls := by
  simp only [argumentFields, List.mem_cons, Prod.mk.injEq, List.not_mem_nil, or_false] at listed
  rcases listed with ⟨-, rfl⟩ | ⟨-, rfl⟩ | ⟨-, rfl⟩ | ⟨-, rfl⟩ | ⟨-, rfl⟩ | ⟨-, rfl⟩ | ⟨-, rfl⟩ |
    ⟨-, rfl⟩ <;> decide

theorem exists_key_of_mem_numberFields {f : Field} (listed : f ∈ numberFields) :
    ∃ key, (key, f) ∈ argumentFields := by
  have all : ∀ g ∈ numberFields, g ∈ argumentFields.map Prod.snd := by decide
  obtain ⟨⟨key, g⟩, member, rfl⟩ := List.mem_map.mp (all f listed)
  exact ⟨key, member⟩

theorem source_of_mem_numberFields {f : Field} (listed : f ∈ numberFields) :
    o.source f = o.get f := by
  have other : f ≠ .keepAliveWithoutCalls := by
    rintro rfl
    exact absurd listed (by decide)
  cases f with
  | setting s => rfl
  | keepAliveWithoutCalls => exact absurd rfl other
  | idleTimeout => rfl

theorem gives_limited {key : String} {f : Field} (listed : (key, f) ∈ argumentFields)
    (numbers : ∀ g ∈ numberFields, (o.get g).IsNumber) : o.Gives f (o.source f).limited := by
  rcases mem_numberFields_or_eq listed with numeric | rfl
  · rw [source_of_mem_numberFields numeric]
    exact .number numeric (numbers f numeric).limited
  · by_cases falsy : o.keepAliveWithoutCalls.IsFalse
    · rw [source, Value.isTruthy_eq_false_iff.mpr falsy]
      exact .forbidden falsy
    · rw [source, Value.isTruthy_eq_true_iff.mpr falsy]
      exact .permitted falsy

theorem isNumber_source {key : String} {f : Field} (listed : (key, f) ∈ argumentFields)
    (numbers : ∀ g ∈ numberFields, (o.get g).IsNumber) : (o.source f).IsNumber := by
  rcases mem_numberFields_or_eq listed with numeric | rfl
  · rw [source_of_mem_numberFields numeric]
    exact numbers f numeric
  · exact .int _

theorem arguments_of_numbers (numbers : ∀ f ∈ numberFields, (o.get f).IsNumber) :
    o.arguments = .ok (argumentFields.map fun (key, f) => (key, (o.source f).limited)) := by
  rw [arguments, Arguments.clamped_of_numbers, argumentSources_eq_map, List.map_map]
  · rfl
  · rw [argumentSources_eq_map]
    exact List.forall_mem_map.mpr fun entry listed => isNumber_source listed numbers

theorem exists_of_arguments_error {fault : Fault} (failed : o.arguments = .error fault) :
    ∃ key f, (key, f) ∈ argumentFields ∧ f ∈ numberFields ∧ ¬ (o.get f).IsNumber ∧
      fault = .notANumber key := by
  obtain ⟨key, v, entry, other, same⟩ := Arguments.exists_of_clamped_error failed
  rw [argumentSources_eq_map] at entry
  obtain ⟨⟨named, f⟩, listed, equal⟩ := List.mem_map.mp entry
  obtain ⟨rfl, rfl⟩ := Prod.mk.inj equal
  rcases mem_numberFields_or_eq listed with numeric | rfl
  · rw [source_of_mem_numberFields numeric] at other
    exact ⟨named, f, listed, numeric, other, same⟩
  · exact absurd (.int _) other

theorem isNumber_of_arguments_ok {arguments : Arguments} (done : o.arguments = .ok arguments) :
    ∀ f ∈ numberFields, (o.get f).IsNumber := by
  intro f numeric
  obtain ⟨key, listed⟩ := exists_key_of_mem_numberFields numeric
  have entry : (key, o.source f) ∈ o.argumentSources := by
    rw [argumentSources_eq_map]
    exact List.mem_map_of_mem listed
  have number := Arguments.isNumber_of_clamped_ok done _ entry
  rwa [source_of_mem_numberFields numeric] at number

/-- The arguments of an option that holds any values. There are none exactly if one of six fields
    does not hold a number, and the error names the argument of such a field; what the other fields
    hold makes no difference. Otherwise all eight are there, in order: each number as the field
    holds it, its kind included, unless it is too large, and a zero or a one for the permission. -/
theorem arguments_of_any_values (o : Options) :
    ((∃ fault, o.arguments = .error fault) ↔ ∃ f ∈ numberFields, ¬ (o.get f).IsNumber) ∧
    (∀ fault, o.arguments = .error fault → fault.className = "TypeError" ∧
      ∃ key f, (key, f) ∈ argumentFields ∧ f ∈ numberFields ∧ ¬ (o.get f).IsNumber ∧
        fault = .notANumber key) ∧
    ((∀ f ∈ numberFields, (o.get f).IsNumber) →
      ∃ given : Field → Value, (∀ f ∈ argumentFields.map Prod.snd, o.Gives f (given f)) ∧
        o.arguments = .ok (argumentFields.map fun (key, f) => (key, given f))) := by
  refine ⟨⟨?_, ?_⟩, fun fault failed => ?_, ?_⟩
  · rintro ⟨fault, failed⟩
    obtain ⟨-, f, -, numeric, other, -⟩ := exists_of_arguments_error failed
    exact ⟨f, numeric, other⟩
  · rintro ⟨f, numeric, other⟩
    cases done : o.arguments with
    | error fault => exact ⟨fault, rfl⟩
    | ok arguments => exact absurd (isNumber_of_arguments_ok done f numeric) other
  · obtain ⟨key, f, listed, numeric, other, rfl⟩ := exists_of_arguments_error failed
    exact ⟨rfl, key, f, listed, numeric, other, rfl⟩
  · intro numbers
    exact ⟨fun f => (o.source f).limited, List.forall_mem_map.mpr fun entry listed =>
      gives_limited listed numbers, arguments_of_numbers numbers⟩

/-- Numbers of every kind are given as they are, the largest C int as a floating-point value among
    them. The two that are greater are replaced, and a text permits pings without calls. -/
theorem arguments_of_numbers_of_every_kind :
    let largest : Floating := .finite false ⟨2147483647, 0, .inl (by decide)⟩
    let o : Options := { Options.standard with
      keepAliveTime := .float .nan, keepAliveTimeout := .float (.infinite true)
      keepAliveWithoutCalls := .text "no", idleTimeout := .bool true
      maxHeaderListSize := .float largest, maxInboundMessageSize := .float (.infinite false)
      flowControlWindow := .int 2147483648, limitTime := .list [] }
    o.arguments = .ok [("grpc.keepalive_time_ms", .float .nan),
      ("grpc.keepalive_timeout_ms", .float (.infinite true)),
      ("grpc.keepalive_permit_without_calls", .int 1),
      ("grpc.http2.min_time_between_pings_ms", .float .nan),
      ("grpc.client_idle_timeout_ms", .bool true), ("grpc.max_metadata_size", .float largest),
      ("grpc.max_receive_message_length", .int 2147483647),
      ("grpc.http2.lookahead_bytes", .int 2147483647)] := by
  intro largest o
  have numbers : ∀ f ∈ numberFields, (o.get f).IsNumber := by
    simp only [numberFields, List.forall_mem_cons]
    exact ⟨.float _, .float _, .bool _, .float _, .float _, .int _, List.forall_mem_nil _⟩
  obtain ⟨-, -, made⟩ := arguments_of_any_values o
  obtain ⟨given, gives, same⟩ := made numbers
  have exact : largest.number = .finite 2147483647 := by decide +kernel
  have within : ¬ largest.number.Above 2147483647 := by
    rw [exact]
    rintro ⟨greater⟩
    exact absurd greater (lt_irrefl _)
  have time : given (Setting.amount .keepAliveTime) = .float .nan :=
    (gives _ (by decide)).unique (.number (by decide) (.float nofun))
  have timeout : given (Setting.amount .keepAliveTimeout) = .float (.infinite true) :=
    (gives _ (by decide)).unique (.number (by decide) (.float nofun))
  have permission : given .keepAliveWithoutCalls = .int 1 :=
    (gives _ (by decide)).unique (.permitted (Value.isTruthy_eq_true_iff.mp rfl))
  have idle : given .idleTimeout = .bool true :=
    (gives _ (by decide)).unique (.number (by decide) (.bool true))
  have headers : given (Setting.amount .maxHeaderListSize) = .float largest :=
    (gives _ (by decide)).unique (.number (by decide) (.float within))
  have messages : given (Setting.amount .maxInboundMessageSize) = .int 2147483647 :=
    (gives _ (by decide)).unique (.number (by decide) (.largeFloat .infinite))
  have window : given (Setting.amount .flowControlWindow) = .int 2147483647 :=
    (gives _ (by decide)).unique (.number (by decide) (.largeInt (by decide)))
  rw [same]
  simp only [argumentFields, List.map_cons, List.map_nil, time, timeout, permission, idle, headers,
    messages, window]

end Options

end ChannelTuning
