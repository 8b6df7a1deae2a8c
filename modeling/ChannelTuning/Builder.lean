import ChannelTuning.Options
import ChannelTuning.Transport.Naming

namespace ChannelTuning

structure Builder where
  keepAliveTime : Int
  keepAliveTimeout : Int
  maxHeaderListSize : Int
  maxInboundMessageSize : Int
  flowControlWindow : Int
  connectTimeout : Int
  writeBufferHighWaterMark : Int
  writeBufferLowWaterMark : Int
  transport : Transport
  maxTraceEvent : Int
  limitCount : Int
  limitTime : Int
  deriving DecidableEq

def Amount.accept (a : Amount) : Value → Except Fault Int
  | .int n => if a.bound.least ≤ n then .ok n else .error (.outOfRange a n)
  | v => .error (.notAnInteger a v)

namespace Builder

def fresh : Builder where
  keepAliveTime := Amount.standard .keepAliveTime
  keepAliveTimeout := Amount.standard .keepAliveTimeout
  maxHeaderListSize := Amount.standard .maxHeaderListSize
  maxInboundMessageSize := Amount.standard .maxInboundMessageSize
  flowControlWindow := Amount.standard .flowControlWindow
  connectTimeout := Amount.standard .connectTimeout
  writeBufferHighWaterMark := Amount.standard .writeBufferHighWaterMark
  writeBufferLowWaterMark := Amount.standard .writeBufferLowWaterMark
  transport := .auto
  maxTraceEvent := Amount.standard .maxTraceEvent
  limitCount := Amount.standard .limitCount
  limitTime := Amount.standard .limitTime

def amount (b : Builder) : Amount → Int
  | .keepAliveTime => b.keepAliveTime
  | .keepAliveTimeout => b.keepAliveTimeout
  | .maxHeaderListSize => b.maxHeaderListSize
  | .maxInboundMessageSize => b.maxInboundMessageSize
  | .flowControlWindow => b.flowControlWindow
  | .connectTimeout => b.connectTimeout
  | .writeBufferHighWaterMark => b.writeBufferHighWaterMark
  | .writeBufferLowWaterMark => b.writeBufferLowWaterMark
  | .maxTraceEvent => b.maxTraceEvent
  | .limitCount => b.limitCount
  | .limitTime => b.limitTime

def putAmount (b : Builder) (a : Amount) (n : Int) : Builder :=
  match a with
  | .keepAliveTime => { b with keepAliveTime := n }
  | .keepAliveTimeout => { b with keepAliveTimeout := n }
  | .maxHeaderListSize => { b with maxHeaderListSize := n }
  | .maxInboundMessageSize => { b with maxInboundMessageSize := n }
  | .flowControlWindow => { b with flowControlWindow := n }
  | .connectTimeout => { b with connectTimeout := n }
  | .writeBufferHighWaterMark => { b with writeBufferHighWaterMark := n }
  | .writeBufferLowWaterMark => { b with writeBufferLowWaterMark := n }
  | .maxTraceEvent => { b with maxTraceEvent := n }
  | .limitCount => { b with limitCount := n }
  | .limitTime => { b with limitTime := n }

def putTransport (b : Builder) (t : Transport) : Builder := { b with transport := t }

theorem amount_putAmount_self (b : Builder) (a : Amount) (n : Int) :
    (b.putAmount a n).amount a = n := by
  cases a <;> rfl

theorem amount_putAmount_of_ne (b : Builder) {a c : Amount} (n : Int) (other : c ≠ a) :
    (b.putAmount a n).amount c = b.amount c := by
  cases a <;> cases c <;> simp_all [amount, putAmount]

theorem transport_putAmount (b : Builder) (a : Amount) (n : Int) :
    (b.putAmount a n).transport = b.transport := by
  cases a <;> rfl

theorem amount_putTransport (b : Builder) (t : Transport) (a : Amount) :
    (b.putTransport t).amount a = b.amount a := by
  cases a <;> rfl

theorem transport_putTransport (b : Builder) (t : Transport) :
    (b.putTransport t).transport = t :=
  rfl

theorem ext_amount {b c : Builder} (amounts : ∀ a, b.amount a = c.amount a)
    (transports : b.transport = c.transport) : b = c := by
  cases b
  cases c
  congr
  · exact amounts .keepAliveTime
  · exact amounts .keepAliveTimeout
  · exact amounts .maxHeaderListSize
  · exact amounts .maxInboundMessageSize
  · exact amounts .flowControlWindow
  · exact amounts .connectTimeout
  · exact amounts .writeBufferHighWaterMark
  · exact amounts .writeBufferLowWaterMark
  · exact amounts .maxTraceEvent
  · exact amounts .limitCount
  · exact amounts .limitTime

def value (b : Builder) : Setting → Value
  | .amount a => .int (b.amount a)
  | .transport => .transport b.transport

def set (b : Builder) (name : String) (v : Value) : Except Fault Builder :=
  match Setting.named? name with
  | some (.amount a) => (a.accept v).map (b.putAmount a)
  | some .transport => (Transport.accept v).map b.putTransport
  | none => .error (.noSetter name)

def chain (b : Builder) : List (String × Value) → Builder × Option Fault
  | [] => (b, none)
  | (name, v) :: rest =>
    match b.set name v with
    | .ok next => next.chain rest
    | .error fault => (b, some fault)

def build (b : Builder) : Options := .ofSettings b.value

def display (b : Builder) : String :=
  braced "Builder" (Setting.all.map fun s => (s.name, b.value s))

end Builder

def Options.standard : Options := Builder.fresh.build

end ChannelTuning
