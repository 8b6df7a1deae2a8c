import ChannelTuning.Arguments
import ChannelTuning.Builder
import ChannelTuning.Log

namespace ChannelTuning

/-- Something that a backend hands out, credentials or a channel. Nothing is known of it but
    whether it is the same as another. -/
structure Handle where
  number : Nat
  deriving DecidableEq

inductive Call where
  | credentials
  | secure (target : Value) (credentials : Handle) (arguments : Arguments)
  | insecure (target : Value) (arguments : Arguments)

def Call.function : Call → BackendFunction
  | credentials => .credentials
  | secure _ _ _ => .secure
  | insecure _ _ => .insecure

structure Backend where
  load : Except Incident Unit
  find : BackendFunction → Except Incident Unit
  call : Call → Except Incident Handle

structure Exchange (α : Type) where
  calls : List Call
  outcome : Except Incident α

def Exchange.andThen {α β : Type} (exchange : Exchange α) (next : α → Exchange β) : Exchange β :=
  match exchange.outcome with
  | .error incident => ⟨exchange.calls, .error incident⟩
  | .ok a => ⟨exchange.calls ++ (next a).calls, (next a).outcome⟩

namespace Backend

def missingIncident : Incident :=
  .unloadable "ModuleNotFoundError" [.text "No module named 'grpc'"]

def handed : BackendFunction → Handle
  | .credentials => ⟨0⟩
  | .secure => ⟨1⟩
  | .insecure => ⟨2⟩

def withFaults (isMissing : Bool) (absent : List BackendFunction)
    (failing : Option (BackendFunction × Incident)) : Backend where
  load := if isMissing then .error missingIncident else .ok ()
  find function := if function ∈ absent then .error (.absent function) else .ok ()
  call call :=
    match failing with
    | none => .ok (handed call.function)
    | some (function, incident) =>
      if function = call.function then .error incident else .ok (handed call.function)

def working : Backend := withFaults false [] none

/-- Makes a call. The function is looked up just before, so a call of an absent one is not made. -/
def invoke (backend : Backend) (call : Call) : Exchange Handle :=
  (Exchange.mk [] (backend.find call.function)).andThen fun () => ⟨[call], backend.call call⟩

/-- Loads the backend and opens a channel with it. Credentials are asked for before the function
    that takes them is looked up. -/
def connect (backend : Backend) (tls : Bool) (target : Value) (arguments : Arguments) :
    Exchange Handle :=
  (Exchange.mk [] backend.load).andThen fun () =>
    if tls then
      (backend.invoke .credentials).andThen fun credentials =>
        backend.invoke (.secure target credentials arguments)
    else backend.invoke (.insecure target arguments)

end Backend

/-- The fault that an incident in the backend ends in. A request to stop passes through, and an
    error without text cannot be reported. -/
def Incident.fault (target : Value) : Incident → Fault
  | .unloadable className arguments => .backendMissing (.unloadable className arguments)
  | .stop className arguments => .stopped (.stop className arguments)
  | .other _ (.error className) => .unwritable className
  | incident =>
    match incident.display? with
    | some text => .notOpened target text incident
    | none => .namelessCode

inductive Choice where
  | nothing
  | options (o : Options)
  | value (v : Value)

def Choice.options? : Choice → Option Options
  | nothing => some .standard
  | options o => some o
  | value v => if v.isTruthy then none else some .standard

def Choice.records : Choice → List Record
  | nothing => [.built .standard]
  | options _ => []
  | value v => if v.isTruthy then [] else [.built .standard]

structure Request where
  target : Value
  choice : Choice
  tls : Value
  backend : Backend

structure Opening where
  calls : List Call
  records : List Record
  result : Except Fault Handle

namespace Request

/-- Opens a channel. The arguments are worked out before the backend is loaded. -/
def perform (request : Request) : Opening :=
  let tls := request.tls.isTruthy
  let records := request.choice.records
  match request.choice.options? with
  | none => ⟨[], records, .error .notOptions⟩
  | some o =>
    match o.arguments with
    | .error fault => ⟨[], records, .error fault⟩
    | .ok arguments =>
      let exchange := request.backend.connect tls request.target arguments
      match exchange.outcome with
      | .error incident => ⟨exchange.calls, records, .error (incident.fault request.target)⟩
      | .ok channel => ⟨exchange.calls, records ++ [.opened tls request.target o], .ok channel⟩

end Request

end ChannelTuning
