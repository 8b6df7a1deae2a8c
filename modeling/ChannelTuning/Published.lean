import ChannelTuning.Arguments
import ChannelTuning.Builder

namespace ChannelTuning.Published

def constants : List (String × Value) :=
  [("DEFAULT_CHANNEL_TYPE", .text Builder.fresh.transport.name),
    ("DEFAULT_CONNECT_TIMEOUT", .int (Amount.standard .connectTimeout)),
    ("DEFAULT_FLOW_CONTROL_WINDOW", .int (Amount.standard .flowControlWindow)),
    ("DEFAULT_KEEPALIVE_TIME", .int (Amount.standard .keepAliveTime)),
    ("DEFAULT_KEEPALIVE_TIMEOUT", .int (Amount.standard .keepAliveTimeout)),
    ("DEFAULT_LIMIT_COUNT", .int (Amount.standard .limitCount)),
    ("DEFAULT_LIMIT_TIME", .int (Amount.standard .limitTime)),
    ("DEFAULT_MAX_HEADER_LIST_SIZE", .int (Amount.standard .maxHeaderListSize)),
    ("DEFAULT_MAX_MESSAGE_SIZE", .int (Amount.standard .maxInboundMessageSize)),
    ("DEFAULT_MAX_TRACE_EVENT", .int (Amount.standard .maxTraceEvent)),
    ("DEFAULT_WRITE_BUFFER_HIGH_WATER_MARK", .int (Amount.standard .writeBufferHighWaterMark)),
    ("DEFAULT_WRITE_BUFFER_LOW_WATER_MARK", .int (Amount.standard .writeBufferLowWaterMark)),
    ("GRPC_MAX_CHANNEL_ARG", .int largestArgument),
    ("IDLE_TIMEOUT_MILLIS_DISABLE", .int idleTimeoutDisabled),
    ("INITIAL_FLOW_CONTROL_WINDOW", .int Amount.initialWindow),
    ("KEEPALIVE_WITHOUT_CALLS_DISABLE", .bool keepAliveWithoutCallsDisabled)]

def exports : List String :=
  ["ChannelType", "ClientOption", "ConnectionError", "ErrorCode", "GrpcOptionsError",
    "InvalidArgumentError", "MissingValueError", "UnknownChannelTypeError", "channel_args",
    "open_channel"]

def version : String := "0.1.0"

end ChannelTuning.Published
