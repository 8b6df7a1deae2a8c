import ChannelTuning.Proofs.Builder.Runs

namespace ChannelTuning

def Value.IsIntegerFrom (least : Int) (v : Value) : Prop := ∃ n : Int, v = .int n ∧ least ≤ n

/-- What an option has to hold to be of use: sizes and durations above zero, a flow-control window
    no smaller than the one of the protocol, sampling limits that are not negative, a transport, and
    the withheld fields disabled. -/
structure Options.Valid (o : Options) : Prop where
  keepAliveTime : o.keepAliveTime.IsIntegerFrom 1
  keepAliveTimeout : o.keepAliveTimeout.IsIntegerFrom 1
  keepAliveWithoutCalls : o.keepAliveWithoutCalls = .bool false
  idleTimeout : o.idleTimeout = .int 2592000000
  maxHeaderListSize : o.maxHeaderListSize.IsIntegerFrom 1
  maxInboundMessageSize : o.maxInboundMessageSize.IsIntegerFrom 1
  flowControlWindow : o.flowControlWindow.IsIntegerFrom 65535
  connectTimeout : o.connectTimeout.IsIntegerFrom 1
  writeBufferHighWaterMark : o.writeBufferHighWaterMark.IsIntegerFrom 1
  writeBufferLowWaterMark : o.writeBufferLowWaterMark.IsIntegerFrom 1
  transport : ∃ t, o.transport = .transport t
  maxTraceEvent : o.maxTraceEvent.IsIntegerFrom 0
  limitCount : o.limitCount.IsIntegerFrom 0
  limitTime : o.limitTime.IsIntegerFrom 0

theorem Options.Valid.amount {o : Options} (valid : o.Valid) (a : Amount) :
    (o.get (Setting.amount a)).IsIntegerFrom a.bound.least := by
  cases a with
  | keepAliveTime => exact valid.keepAliveTime
  | keepAliveTimeout => exact valid.keepAliveTimeout
  | maxHeaderListSize => exact valid.maxHeaderListSize
  | maxInboundMessageSize => exact valid.maxInboundMessageSize
  | flowControlWindow => exact valid.flowControlWindow
  | connectTimeout => exact valid.connectTimeout
  | writeBufferHighWaterMark => exact valid.writeBufferHighWaterMark
  | writeBufferLowWaterMark => exact valid.writeBufferLowWaterMark
  | maxTraceEvent => exact valid.maxTraceEvent
  | limitCount => exact valid.limitCount
  | limitTime => exact valid.limitTime

def Options.settingValues (o : Options) : List (String × Value) :=
  [("keep_alive_time", o.keepAliveTime), ("keep_alive_timeout", o.keepAliveTimeout),
    ("max_header_list_size", o.maxHeaderListSize),
    ("max_inbound_message_size", o.maxInboundMessageSize),
    ("flow_control_window", o.flowControlWindow), ("connect_timeout", o.connectTimeout),
    ("write_buffer_high_water_mark", o.writeBufferHighWaterMark),
    ("write_buffer_low_water_mark", o.writeBufferLowWaterMark), ("channel_type", o.transport),
    ("max_trace_event", o.maxTraceEvent), ("limit_count", o.limitCount),
    ("limit_time", o.limitTime)]

theorem Options.mem_settingValues (o : Options) (s : Setting) :
    (s.name, o.get s) ∈ o.settingValues := by
  rcases s with (_ | _ | _ | _ | _ | _ | _ | _ | _ | _ | _) | _ <;>
    simp [settingValues, get, Setting.name, Amount.name]

theorem Options.exists_of_mem_settingValues {o : Options} {entry : String × Value}
    (listed : entry ∈ o.settingValues) : ∃ s : Setting, entry = (s.name, o.get s) := by
  have order : o.settingValues = (Field.all.filterMap fun
      | .setting s => some (s.name, o.get s)
      | _ => none) := rfl
  rw [order] at listed
  obtain ⟨f, -, same⟩ := List.mem_filterMap.mp listed
  cases f with
  | setting s => exact ⟨s, (Option.some.inj same).symm⟩
  | keepAliveWithoutCalls => cases same
  | idleTimeout => cases same

namespace Builder

def Bounded (b : Builder) : Prop := ∀ a : Amount, a.bound.least ≤ b.amount a

theorem bounded_fresh : fresh.Bounded := by
  intro a
  cases a <;> decide

theorem Bounded.of_set {b next : Builder} {name : String} {v : Value} (bounded : b.Bounded)
    (done : b.set name v = .ok next) : next.Bounded := by
  intro c
  rcases set_cases done with ⟨a, n, -, -, bound, rfl⟩ | ⟨t, -, -, rfl⟩
  · by_cases same : c = a
    · subst same
      rw [amount_putAmount_self]
      exact bound
    · rw [amount_putAmount_of_ne b n same]
      exact bounded c
  · rw [amount_putTransport]
    exact bounded c

theorem Bounded.use {b : Builder} (bounded : b.Bounded) (u : Use) : (b.use u).2.Bounded := by
  cases u with
  | set name v =>
    cases done : b.set name v with
    | ok next =>
      rw [use_of_accepted done]
      exact bounded.of_set done
    | error fault =>
      rw [use_of_refused done]
      exact bounded
  | build => exact bounded
  | display => exact bounded

theorem Bounded.after {b : Builder} (bounded : b.Bounded) (uses : List Use) :
    (b.after uses).Bounded := by
  induction uses generalizing b with
  | nil => exact bounded
  | cons u rest previous => exact previous (bounded.use u)

theorem Bounded.valid_build {b : Builder} (bounded : b.Bounded) : b.build.Valid where
  keepAliveTime := ⟨_, rfl, bounded .keepAliveTime⟩
  keepAliveTimeout := ⟨_, rfl, bounded .keepAliveTimeout⟩
  keepAliveWithoutCalls := rfl
  idleTimeout := rfl
  maxHeaderListSize := ⟨_, rfl, bounded .maxHeaderListSize⟩
  maxInboundMessageSize := ⟨_, rfl, bounded .maxInboundMessageSize⟩
  flowControlWindow := ⟨_, rfl, bounded .flowControlWindow⟩
  connectTimeout := ⟨_, rfl, bounded .connectTimeout⟩
  writeBufferHighWaterMark := ⟨_, rfl, bounded .writeBufferHighWaterMark⟩
  writeBufferLowWaterMark := ⟨_, rfl, bounded .writeBufferLowWaterMark⟩
  transport := ⟨_, rfl⟩
  maxTraceEvent := ⟨_, rfl, bounded .maxTraceEvent⟩
  limitCount := ⟨_, rfl, bounded .limitCount⟩
  limitTime := ⟨_, rfl, bounded .limitTime⟩

theorem use_of_valid {o : Options} (valid : o.Valid) (b : Builder) (s : Setting) :
    (b.use (.set s.name (o.get s))).1 = .accepted ∧
      ∀ t, (b.use (.set s.name (o.get s))).2.value t = if t = s then o.get s else b.value t := by
  cases s with
  | amount a =>
    obtain ⟨n, same, bound⟩ := valid.amount a
    have accepted : a.accept (o.get (Setting.amount a)) = .ok n :=
      Amount.accept_eq_ok_iff.mpr ⟨same, bound⟩
    have done : b.set (Setting.amount a).name (o.get (Setting.amount a)) = .ok (b.putAmount a n) := by
      rw [Setting.name, set_amount, accepted]
      rfl
    rw [use_of_accepted done]
    refine ⟨rfl, fun t => ?_⟩
    rw [value_putAmount, same]
  | transport =>
    obtain ⟨t, same⟩ := valid.transport
    have held : o.get Setting.transport = .transport t := same
    have done : b.set Setting.transport.name (o.get Setting.transport) = .ok (b.putTransport t) := by
      rw [set_transport, held]
      rfl
    rw [use_of_accepted done]
    refine ⟨rfl, fun t => ?_⟩
    rw [value_putTransport, held]

theorem trace_of_valid {o : Options} (valid : o.Valid) (b : Builder)
    {settings : List (String × Value)} (held : settings ⊆ o.settingValues) :
    (b.trace (chainUses settings)).map Prod.snd = List.replicate settings.length .accepted := by
  induction settings generalizing b with
  | nil => rfl
  | cons entry rest previous =>
    obtain ⟨head, tail⟩ := List.cons_subset.mp held
    obtain ⟨s, rfl⟩ := Options.exists_of_mem_settingValues head
    have accepted := (use_of_valid valid b s).1
    have later := previous (b.use (.set s.name (o.get s))).2 tail
    rw [List.length_cons, List.replicate_succ, ← later, ← accepted]
    rfl

theorem value_after_of_valid {o : Options} (valid : o.Valid) (b : Builder)
    {settings : List (String × Value)} (held : settings ⊆ o.settingValues) (t : Setting) :
    (b.after (chainUses settings)).value t =
      if t.name ∈ settings.map Prod.fst then o.get t else b.value t := by
  induction settings generalizing b with
  | nil => rfl
  | cons entry rest previous =>
    obtain ⟨head, tail⟩ := List.cons_subset.mp held
    obtain ⟨s, rfl⟩ := Options.exists_of_mem_settingValues head
    have stored := (use_of_valid valid b s).2 t
    have later := previous (b.use (.set s.name (o.get s))).2 tail
    rw [stored] at later
    refine later.trans ?_
    by_cases listed : t.name ∈ rest.map Prod.fst
    -- `t` is set again later, to the same value
    · simp [listed]
    · by_cases same : t = s
      · subst same
        simp
      · have apart : t.name ≠ s.name := fun h => same (Setting.name_injective h)
        simp [listed, same, apart]

theorem build_eq_of_value {b : Builder} {o : Options} (valid : o.Valid)
    (same : ∀ s : Setting, b.value s = o.get s) : b.build = o := by
  apply Options.ext_get
  intro f
  cases f with
  | setting s =>
    rw [get_build]
    exact same s
  | keepAliveWithoutCalls => exact valid.keepAliveWithoutCalls.symm
  | idleTimeout => exact valid.idleTimeout.symm

/-- Builders make the valid options and no others. What a run of calls on a fresh builder builds is
    valid, whatever was refused on the way. And any builder makes a given valid option once its
    twelve settings have been set, in any order, and none of these calls is refused. -/
theorem built_options_are_valid_options :
    (∀ (uses : List Use) (u : Use) (o : Options),
      (u, Response.built o) ∈ fresh.trace uses → o.Valid) ∧
    ∀ (o : Options) (b : Builder) (settings : List (String × Value)),
      o.Valid → settings.Perm o.settingValues →
        (b.trace (chainUses settings ++ [.build])).map Prod.snd =
          List.replicate 12 .accepted ++ [.built o] := by
  constructor
  · intro uses u o built
    obtain ⟨before, -, -, rfl⟩ := exists_of_built_mem_trace built
    exact (bounded_fresh.after before).valid_build
  · intro o b settings valid permuted
    have count : settings.length = 12 := permuted.length_eq
    have stored : ∀ s : Setting, (b.after (chainUses settings)).value s = o.get s := by
      intro s
      have listed := permuted.mem_iff.mpr (o.mem_settingValues s)
      have named : s.name ∈ settings.map Prod.fst := List.mem_map_of_mem listed
      rw [value_after_of_valid valid b permuted.subset, if_pos named]
    have built := build_eq_of_value valid stored
    rw [trace_append, List.map_append, trace_of_valid valid b permuted.subset, count]
    simp only [trace, use, List.map_cons, List.map_nil, built]

/-- A truth value is no duration, and a window of exactly the size that the protocol starts with is
    large enough. -/
theorem built_options_at_their_bounds :
    ({ fresh with limitTime := 0 } : Builder).build.Valid ∧
      ((fresh.putTransport .epoll).trace
          (chainUses ({ fresh with flowControlWindow := 65535 } : Builder).build.settingValues.reverse
            ++ [.build])).map Prod.snd =
        List.replicate 12 .accepted ++
          [.built ({ fresh with flowControlWindow := 65535 } : Builder).build] := by
  have smallest : ({ fresh with flowControlWindow := 65535 } : Builder).Bounded := by
    intro a
    cases a <;> decide
  constructor
  · exact built_options_are_valid_options.1
      [.set "keep_alive_time" (.bool true), .set "limit_time" (.int 0), .build] .build _
      (.tail _ (.tail _ (.head _)))
  · exact built_options_are_valid_options.2 _ _ _ smallest.valid_build (List.reverse_perm _)

end Builder

end ChannelTuning
