import ChannelTuning.Options
import ChannelTuning.Fault

namespace ChannelTuning

def largestArgument : Int := 2147483647

def Value.clamped? (v : Value) : Option Value :=
  v.number?.map fun x => if x.exceeds largestArgument then .int largestArgument else v

abbrev Arguments := List (String × Value)

def Arguments.clamped : Arguments → Except Fault Arguments
  | [] => .ok []
  | (key, v) :: rest =>
    match v.clamped? with
    | none => .error (.notANumber key)
    | some w => (clamped rest).map ((key, w) :: ·)

namespace Options

/-- The fields that a channel has an argument for. The interval of keep-alive pings stands under
    two keys, and permission to ping without calls is a zero or a one. -/
def argumentSources (o : Options) : Arguments :=
  [("grpc.keepalive_time_ms", o.keepAliveTime),
    ("grpc.keepalive_timeout_ms", o.keepAliveTimeout),
    ("grpc.keepalive_permit_without_calls",
      .int (if o.keepAliveWithoutCalls.isTruthy then 1 else 0)),
    ("grpc.http2.min_time_between_pings_ms", o.keepAliveTime),
    ("grpc.client_idle_timeout_ms", o.idleTimeout),
    ("grpc.max_metadata_size", o.maxHeaderListSize),
    ("grpc.max_receive_message_length", o.maxInboundMessageSize),
    ("grpc.http2.lookahead_bytes", o.flowControlWindow)]

def arguments (o : Options) : Except Fault Arguments := o.argumentSources.clamped

end Options

end ChannelTuning
