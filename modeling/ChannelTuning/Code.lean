namespace ChannelTuning

inductive Code where
  | unknown
  | invalidArgument
  | missingValue
  | unknownTransport
  | unavailable
  deriving DecidableEq

namespace Code

def all : List Code :=
  [.unknown, .invalidArgument, .missingValue, .unknownTransport, .unavailable]

def name : Code → String
  | .unknown => "UNKNOWN"
  | .invalidArgument => "INVALID_ARGUMENT"
  | .missingValue => "MISSING_VALUE"
  | .unknownTransport => "UNKNOWN_CHANNEL_TYPE"
  | .unavailable => "UNAVAILABLE"

def number : Code → Int
  | .unknown => 0
  | .invalidArgument => 1
  | .missingValue => 2
  | .unknownTransport => 3
  | .unavailable => 4

end Code

end ChannelTuning
