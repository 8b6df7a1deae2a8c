import ChannelTuning.Field
import ChannelTuning.Value.Equality
import ChannelTuning.Value.Rendering

namespace ChannelTuning

/-- The transport tuning of one client connection. Options made by a builder hold integers and a
    transport; options made in other ways can hold any value in any field. -/
structure Options where
  keepAliveTime : Value
  keepAliveTimeout : Value
  keepAliveWithoutCalls : Value
  idleTimeout : Value
  maxHeaderListSize : Value
  maxInboundMessageSize : Value
  flowControlWindow : Value
  connectTimeout : Value
  writeBufferHighWaterMark : Value
  writeBufferLowWaterMark : Value
  transport : Value
  maxTraceEvent : Value
  limitCount : Value
  limitTime : Value

namespace Options

def get (o : Options) : Field → Value
  | .setting (.amount .keepAliveTime) => o.keepAliveTime
  | .setting (.amount .keepAliveTimeout) => o.keepAliveTimeout
  | .keepAliveWithoutCalls => o.keepAliveWithoutCalls
  | .idleTimeout => o.idleTimeout
  | .setting (.amount .maxHeaderListSize) => o.maxHeaderListSize
  | .setting (.amount .maxInboundMessageSize) => o.maxInboundMessageSize
  | .setting (.amount .flowControlWindow) => o.flowControlWindow
  | .setting (.amount .connectTimeout) => o.connectTimeout
  | .setting (.amount .writeBufferHighWaterMark) => o.writeBufferHighWaterMark
  | .setting (.amount .writeBufferLowWaterMark) => o.writeBufferLowWaterMark
  | .setting .transport => o.transport
  | .setting (.amount .maxTraceEvent) => o.maxTraceEvent
  | .setting (.amount .limitCount) => o.limitCount
  | .setting (.amount .limitTime) => o.limitTime

def put (o : Options) (f : Field) (v : Value) : Options :=
  match f with
  | .setting (.amount .keepAliveTime) => { o with keepAliveTime := v }
  | .setting (.amount .keepAliveTimeout) => { o with keepAliveTimeout := v }
  | .keepAliveWithoutCalls => { o with keepAliveWithoutCalls := v }
  | .idleTimeout => { o with idleTimeout := v }
  | .setting (.amount .maxHeaderListSize) => { o with maxHeaderListSize := v }
  | .setting (.amount .maxInboundMessageSize) => { o with maxInboundMessageSize := v }
  | .setting (.amount .flowControlWindow) => { o with flowControlWindow := v }
  | .setting (.amount .connectTimeout) => { o with connectTimeout := v }
  | .setting (.amount .writeBufferHighWaterMark) => { o with writeBufferHighWaterMark := v }
  | .setting (.amount .writeBufferLowWaterMark) => { o with writeBufferLowWaterMark := v }
  | .setting .transport => { o with transport := v }
  | .setting (.amount .maxTraceEvent) => { o with maxTraceEvent := v }
  | .setting (.amount .limitCount) => { o with limitCount := v }
  | .setting (.amount .limitTime) => { o with limitTime := v }

def ofSettings (value : Setting → Value) : Options where
  keepAliveTime := value (.amount .keepAliveTime)
  keepAliveTimeout := value (.amount .keepAliveTimeout)
  keepAliveWithoutCalls := .bool keepAliveWithoutCallsDisabled
  idleTimeout := .int idleTimeoutDisabled
  maxHeaderListSize := value (.amount .maxHeaderListSize)
  maxInboundMessageSize := value (.amount .maxInboundMessageSize)
  flowControlWindow := value (.amount .flowControlWindow)
  connectTimeout := value (.amount .connectTimeout)
  writeBufferHighWaterMark := value (.amount .writeBufferHighWaterMark)
  writeBufferLowWaterMark := value (.amount .writeBufferLowWaterMark)
  transport := value .transport
  maxTraceEvent := value (.amount .maxTraceEvent)
  limitCount := value (.amount .limitCount)
  limitTime := value (.amount .limitTime)

theorem get_put_self (o : Options) (f : Field) (v : Value) : (o.put f v).get f = v := by
  rcases f with (a | _) | _ | _
  · cases a <;> rfl
  all_goals rfl

theorem get_put_of_ne (o : Options) {f g : Field} (v : Value) (other : g ≠ f) :
    (o.put f v).get g = o.get g := by
  rcases f with ((_ | _ | _ | _ | _ | _ | _ | _ | _ | _ | _) | _) | _ | _ <;>
    rcases g with ((_ | _ | _ | _ | _ | _ | _ | _ | _ | _ | _) | _) | _ | _ <;>
    simp_all [get, put]

theorem get_setting_ofSettings (value : Setting → Value) (s : Setting) :
    (ofSettings value).get s = value s := by
  cases s with
  | amount a => cases a <;> rfl
  | transport => rfl

theorem ext_get {o p : Options} (same : ∀ f, o.get f = p.get f) : o = p := by
  cases o
  cases p
  congr
  · exact same (.setting (.amount .keepAliveTime))
  · exact same (.setting (.amount .keepAliveTimeout))
  · exact same .keepAliveWithoutCalls
  · exact same .idleTimeout
  · exact same (.setting (.amount .maxHeaderListSize))
  · exact same (.setting (.amount .maxInboundMessageSize))
  · exact same (.setting (.amount .flowControlWindow))
  · exact same (.setting (.amount .connectTimeout))
  · exact same (.setting (.amount .writeBufferHighWaterMark))
  · exact same (.setting (.amount .writeBufferLowWaterMark))
  · exact same (.setting .transport)
  · exact same (.setting (.amount .maxTraceEvent))
  · exact same (.setting (.amount .limitCount))
  · exact same (.setting (.amount .limitTime))

def entries (o : Options) : List (String × Value) := Field.all.map fun f => (f.name, o.get f)

def equal (o p : Options) : Bool := Field.all.all fun f => (o.get f).equal (p.get f)

def isHashable (o : Options) : Bool := Field.all.all fun f => (o.get f).isHashable

def distinctCount : List Options → Nat
  | [] => 0
  | o :: rest => (if rest.any o.equal then 0 else 1) + distinctCount rest

def display (o : Options) : String := braced "ClientOption" o.entries

def literal (o : Options) : String :=
  "ClientOption(" ++ Text.commaSeparated (o.entries.map fun entry =>
    entry.1 ++ "=" ++ entry.2.literal) ++ ")"

end Options

end ChannelTuning
