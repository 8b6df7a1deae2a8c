namespace ChannelTuning

inductive Transport where
  | auto
  | nio
  | epoll
  deriving DecidableEq

namespace Transport

def all : List Transport := [.auto, .nio, .epoll]

def name : Transport → String
  | .auto => "AUTO"
  | .nio => "NIO"
  | .epoll => "EPOLL"

def token : Transport → String
  | .auto => "auto"
  | .nio => "nio"
  | .epoll => "epoll"

end Transport

end ChannelTuning
