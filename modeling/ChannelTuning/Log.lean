import ChannelTuning.Fault
import ChannelTuning.Options

namespace ChannelTuning

inductive LogSource where
  | options
  | channel
  deriving DecidableEq

def LogSource.name : LogSource → String
  | options => "grpc_options.client_option"
  | channel => "grpc_options.channel"

structure Record where
  source : LogSource
  text : String
  deriving DecidableEq

namespace Record

def level : String := "DEBUG"

def built (o : Options) : Record := ⟨.options, "Built " ++ o.display⟩

def opened (tls : Bool) (target : Value) (o : Options) : Record :=
  ⟨.channel, "Opened " ++ (if tls then "TLS" else "insecure") ++ " channel to " ++ target.display ++
    " with " ++ o.display⟩

def ofFault : Fault → List Record
  | .notAnInteger amount given =>
    [⟨.options, "Rejected " ++ amount.name ++ "=" ++ given.literal ++ ": not an integer"⟩]
  | .outOfRange amount given =>
    [⟨.options, "Rejected " ++ amount.name ++ "=" ++ (Value.int given).literal⟩]
  | _ => []

end Record

end ChannelTuning
