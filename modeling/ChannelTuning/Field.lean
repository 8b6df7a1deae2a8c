namespace ChannelTuning

inductive Amount where
  | keepAliveTime
  | keepAliveTimeout
  | maxHeaderListSize
  | maxInboundMessageSize
  | flowControlWindow
  | connectTimeout
  | writeBufferHighWaterMark
  | writeBufferLowWaterMark
  | maxTraceEvent
  | limitCount
  | limitTime
  deriving DecidableEq

inductive Setting where
  | amount (a : Amount)
  | transport
  deriving DecidableEq

inductive Field where
  | setting (s : Setting)
  | keepAliveWithoutCalls
  | idleTimeout
  deriving DecidableEq

instance : Coe Amount Setting := ⟨.amount⟩

instance : Coe Setting Field := ⟨.setting⟩

namespace Amount

def name : Amount → String
  | keepAliveTime => "keep_alive_time"
  | keepAliveTimeout => "keep_alive_timeout"
  | maxHeaderListSize => "max_header_list_size"
  | maxInboundMessageSize => "max_inbound_message_size"
  | flowControlWindow => "flow_control_window"
  | connectTimeout => "connect_timeout"
  | writeBufferHighWaterMark => "write_buffer_high_water_mark"
  | writeBufferLowWaterMark => "write_buffer_low_water_mark"
  | maxTraceEvent => "max_trace_event"
  | limitCount => "limit_count"
  | limitTime => "limit_time"

/-- The flow-control window that the protocol starts every connection with, in bytes. -/
def initialWindow : Int := 65535

def standard : Amount → Int
  | keepAliveTime => 30 * 1000
  | keepAliveTimeout => 60 * 1000
  | maxHeaderListSize => 8 * 1024
  | maxInboundMessageSize => 4 * 1024 * 1024
  | flowControlWindow => 1024 * 1024
  | connectTimeout => 3000
  | writeBufferHighWaterMark => 32 * 1024 * 1024
  | writeBufferLowWaterMark => 16 * 1024 * 1024
  | maxTraceEvent => 0
  | limitCount => 100
  | limitTime => 60 * 1000

end Amount

inductive Bound where
  | positive
  | notNegative
  | initialWindow
  deriving DecidableEq

namespace Bound

def least : Bound → Int
  | positive => 1
  | notNegative => 0
  | initialWindow => Amount.initialWindow

def complaint : Bound → String
  | positive => " must be positive"
  | notNegative => " must not be negative"
  | initialWindow => " expected >= " ++ toString Amount.initialWindow

end Bound

def Amount.bound : Amount → Bound
  | maxTraceEvent => .notNegative
  | limitCount => .notNegative
  | limitTime => .notNegative
  | flowControlWindow => .initialWindow
  | _ => .positive

namespace Setting

def all : List Setting :=
  [Amount.flowControlWindow, Amount.maxHeaderListSize, Amount.keepAliveTime,
    Amount.keepAliveTimeout, Amount.maxInboundMessageSize, Amount.connectTimeout,
    Amount.writeBufferHighWaterMark, Amount.writeBufferLowWaterMark, transport,
    Amount.maxTraceEvent, Amount.limitCount, Amount.limitTime]

def name : Setting → String
  | amount a => a.name
  | transport => "channel_type"

def named? (name : String) : Option Setting := all.find? fun s => s.name == name

theorem mem_all (s : Setting) : s ∈ all := by
  cases s with
  | amount a => cases a <;> decide
  | transport => decide

theorem named?_name (s : Setting) : named? s.name = some s := by
  cases s with
  | amount a => cases a <;> rfl
  | transport => rfl

theorem name_of_named? {name : String} {s : Setting} (found : named? name = some s) :
    s.name = name := by
  simpa using List.find?_some found

theorem name_injective {s t : Setting} (same : s.name = t.name) : s = t := by
  have found := named?_name s
  rw [same, named?_name] at found
  exact (Option.some.inj found).symm

end Setting

namespace Field

def all : List Field :=
  [Setting.amount .keepAliveTime, Setting.amount .keepAliveTimeout, keepAliveWithoutCalls,
    idleTimeout, Setting.amount .maxHeaderListSize, Setting.amount .maxInboundMessageSize,
    Setting.amount .flowControlWindow, Setting.amount .connectTimeout,
    Setting.amount .writeBufferHighWaterMark, Setting.amount .writeBufferLowWaterMark,
    Setting.transport, Setting.amount .maxTraceEvent, Setting.amount .limitCount,
    Setting.amount .limitTime]

def name : Field → String
  | setting s => s.name
  | keepAliveWithoutCalls => "keep_alive_without_calls"
  | idleTimeout => "idle_timeout_millis"

def named? (name : String) : Option Field := all.find? fun f => f.name == name

theorem mem_all (f : Field) : f ∈ all := by
  rcases f with (a | _) | _ | _
  · cases a <;> decide
  all_goals decide

theorem named?_name (f : Field) : named? f.name = some f := by
  rcases f with (a | _) | _ | _
  · cases a <;> rfl
  all_goals rfl

theorem name_of_named? {name : String} {f : Field} (found : named? name = some f) :
    f.name = name := by
  simpa using List.find?_some found

theorem name_injective {f g : Field} (same : f.name = g.name) : f = g := by
  have found := named?_name f
  rw [same, named?_name] at found
  exact (Option.some.inj found).symm

def isWithheld : Field → Bool
  | setting _ => false
  | keepAliveWithoutCalls => true
  | idleTimeout => true

end Field

/-- Thirty days in milliseconds, in effect never. -/
def idleTimeoutDisabled : Int := 30 * 24 * 60 * 60 * 1000

def keepAliveWithoutCallsDisabled : Bool := false

end ChannelTuning
