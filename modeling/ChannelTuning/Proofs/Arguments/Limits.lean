import ChannelTuning.Proofs.Builder.Validity
import ChannelTuning.Proofs.Opening.Calls
import Mathlib.Data.Rat.Cast.Order

namespace ChannelTuning

def Call.arguments? : Call → Option Arguments
  | .credentials => none
  | .secure _ _ arguments => some arguments
  | .insecure _ arguments => some arguments

namespace Arguments

def HoldsFrom (least : Int) (arguments : Arguments) (key : String) : Prop :=
  ∃ n : Int, arguments.lookup key = some (.int n) ∧ least ≤ n ∧ n ≤ 2147483647

/-- What a channel can be configured with: eight integers within the range of a C int, the five
    sizes and durations among them above zero, with pings without calls forbidden and idle channels
    kept forever. -/
structure Fit (arguments : Arguments) : Prop where
  count : arguments.length = 8
  keys : (arguments.map Prod.fst).Nodup
  integers : ∀ entry ∈ arguments, ∃ n : Int, entry.2 = .int n
  positive : ∀ key ∈ ["grpc.keepalive_time_ms", "grpc.http2.min_time_between_pings_ms",
    "grpc.keepalive_timeout_ms", "grpc.max_metadata_size", "grpc.max_receive_message_length"],
      arguments.HoldsFrom 1 key
  window : arguments.HoldsFrom 65535 "grpc.http2.lookahead_bytes"
  pings : arguments.lookup "grpc.keepalive_time_ms" =
    arguments.lookup "grpc.http2.min_time_between_pings_ms"
  permission : arguments.lookup "grpc.keepalive_permit_without_calls" = some (.int 0)
  idle : arguments.lookup "grpc.client_idle_timeout_ms" = some (.int 2147483647)

def ofAmounts (clamped : Amount → Int) : Arguments :=
  [("grpc.keepalive_time_ms", .int (clamped .keepAliveTime)),
    ("grpc.keepalive_timeout_ms", .int (clamped .keepAliveTimeout)),
    ("grpc.keepalive_permit_without_calls", .int 0),
    ("grpc.http2.min_time_between_pings_ms", .int (clamped .keepAliveTime)),
    ("grpc.client_idle_timeout_ms", .int largestArgument),
    ("grpc.max_metadata_size", .int (clamped .maxHeaderListSize)),
    ("grpc.max_receive_message_length", .int (clamped .maxInboundMessageSize)),
    ("grpc.http2.lookahead_bytes", .int (clamped .flowControlWindow))]

end Arguments

theorem Value.clamped?_int (n : Int) :
    (Value.int n).clamped? = some (.int (min n largestArgument)) := by
  have exceeds : (Number.finite (n : Rat)).exceeds largestArgument = decide (largestArgument < n) := by
    simp only [Number.exceeds, Int.cast_lt]
  simp only [clamped?, number?, Option.map_some, exceeds, decide_eq_true_eq]
  by_cases above : largestArgument < n
  · rw [if_pos above, Int.min_eq_right (Int.le_of_lt above)]
  · rw [if_neg above, Int.min_eq_left (Int.not_lt.mp above)]

theorem Arguments.clamped_ints (entries : List (String × Int)) :
    clamped (entries.map fun entry => (entry.1, .int entry.2)) =
      .ok (entries.map fun entry => (entry.1, .int (min entry.2 largestArgument))) := by
  induction entries with
  | nil => rfl
  | cons entry rest previous =>
    simp only [List.map_cons, clamped, Value.clamped?_int, previous, Except.map]

theorem Builder.arguments_build (b : Builder) :
    b.build.arguments = .ok (.ofAmounts fun a => min (b.amount a) largestArgument) :=
  Arguments.clamped_ints
    [("grpc.keepalive_time_ms", b.keepAliveTime), ("grpc.keepalive_timeout_ms", b.keepAliveTimeout),
      ("grpc.keepalive_permit_without_calls", 0),
      ("grpc.http2.min_time_between_pings_ms", b.keepAliveTime),
      ("grpc.client_idle_timeout_ms", idleTimeoutDisabled),
      ("grpc.max_metadata_size", b.maxHeaderListSize),
      ("grpc.max_receive_message_length", b.maxInboundMessageSize),
      ("grpc.http2.lookahead_bytes", b.flowControlWindow)]

theorem Arguments.fit_ofAmounts {clamped : Amount → Int}
    (bounded : ∀ a : Amount, a.bound.least ≤ clamped a)
    (limited : ∀ a, clamped a ≤ largestArgument) : (ofAmounts clamped).Fit where
  count := rfl
  keys := by simp [ofAmounts]
  integers := by simp [ofAmounts]
  positive := by
    intro key listed
    simp only [List.mem_cons, List.not_mem_nil, or_false] at listed
    rcases listed with rfl | rfl | rfl | rfl | rfl
    · exact ⟨_, rfl, bounded .keepAliveTime, limited .keepAliveTime⟩
    · exact ⟨_, rfl, bounded .keepAliveTime, limited .keepAliveTime⟩
    · exact ⟨_, rfl, bounded .keepAliveTimeout, limited .keepAliveTimeout⟩
    · exact ⟨_, rfl, bounded .maxHeaderListSize, limited .maxHeaderListSize⟩
    · exact ⟨_, rfl, bounded .maxInboundMessageSize, limited .maxInboundMessageSize⟩
  window := ⟨_, rfl, bounded .flowControlWindow, limited .flowControlWindow⟩
  pings := rfl
  permission := rfl
  idle := rfl

theorem Request.arguments?_of_mem_calls {request : Request} {o : Options} {arguments : Arguments}
    (chosen : request.choice.options? = some o) (accepted : o.arguments = .ok arguments)
    {c : Call} (made : c ∈ request.perform.calls) :
    c = .credentials ∨ c.arguments? = some arguments := by
  rw [calls_perform chosen accepted] at made
  have planned := (request.backend.calls_connect_isPrefix request.tls.isTruthy request.target
    arguments).subset made
  unfold Backend.plan at planned
  split at planned
  · rcases List.mem_cons.mp planned with rfl | last
    · exact .inl rfl
    · obtain rfl := List.mem_singleton.mp last
      exact .inr rfl
  · obtain rfl := List.mem_singleton.mp planned
    exact .inr rfl

namespace Builder

theorem Bounded.fit_arguments {b : Builder} (bounded : b.Bounded) :
    (Arguments.ofAmounts fun a => min (b.amount a) largestArgument).Fit := by
  apply Arguments.fit_ofAmounts
  · intro a
    have limit : a.bound.least ≤ largestArgument := by cases a <;> decide
    have least := bounded a
    omega
  · intro a
    exact Int.min_le_right _ _

/-- Whatever was set on a builder, and however large, the option built from it gives arguments that
    a channel can be configured with, and these are what every call for a channel hands over. The
    same holds of the standard option, also where it stands in for a missing one. -/
theorem built_arguments_fit (o : Options)
    (made : o = .standard ∨ ∃ uses u, (u, Response.built o) ∈ fresh.trace uses) :
    ∃ arguments, o.arguments = .ok arguments ∧ arguments.Fit ∧
      ∀ request : Request, request.choice.options? = some o →
        ∀ c ∈ request.perform.calls, c = .credentials ∨ c.arguments? = some arguments := by
  have held : ∃ b : Builder, b.Bounded ∧ o = b.build := by
    rcases made with rfl | ⟨uses, u, built⟩
    · exact ⟨fresh, bounded_fresh, rfl⟩
    · obtain ⟨before, -, -, rfl⟩ := exists_of_built_mem_trace built
      exact ⟨_, bounded_fresh.after before, rfl⟩
  obtain ⟨b, bounded, rfl⟩ := held
  refine ⟨_, b.arguments_build, bounded.fit_arguments, ?_⟩
  intro request chosen c asked
  exact request.arguments?_of_mem_calls chosen b.arguments_build asked

/-- An interval of a whole year is cut, after a window that is too small has been refused. The secure
    call that fails has the cut interval among its arguments. -/
theorem built_arguments_of_year_long_interval :
    let uses : List Use := [.set "keep_alive_time" (.int 31536000000),
      .set "flow_control_window" (.int 65534), .set "limit_time" (.bool true), .build]
    let option := ({ fresh with keepAliveTime := 31536000000 } : Builder).build
    let backend := Backend.withFaults false [] (some (.secure, .absent .secure))
    let opening := Request.perform ⟨.text "h:1", .options option, .int 1, backend⟩
    (Use.build, Response.built option) ∈ fresh.trace uses ∧
      opening.calls.map Call.function = [.credentials, .secure] ∧
      ∃ arguments, option.arguments = .ok arguments ∧ arguments.Fit ∧
        arguments.lookup "grpc.keepalive_time_ms" = some (.int 2147483647) ∧
        ∀ c ∈ opening.calls, c = .credentials ∨ c.arguments? = some arguments := by
  intro uses option backend opening
  have built : (Use.build, Response.built option) ∈ fresh.trace uses :=
    .tail _ (.tail _ (.tail _ (.head _)))
  obtain ⟨arguments, given, fit, carried⟩ := built_arguments_fit option (.inr ⟨uses, _, built⟩)
  refine ⟨built, rfl, arguments, given, fit, ?_, carried _ rfl⟩
  have known := given.symm.trans (arguments_build _)
  rw [Except.ok.inj known]
  rfl

end Builder

end ChannelTuning
