import ChannelTuning.Field
import ChannelTuning.Incident

namespace ChannelTuning

inductive Edit where
  | assign
  | delete
  deriving DecidableEq

inductive Fault where
  | notAnInteger (amount : Amount) (given : Value)
  | outOfRange (amount : Amount) (given : Int)
  | noTransport
  | unknownTransport (name : String)
  | noSetter (name : String)
  | noField (name : String)
  | reserved (name : String)
  | frozen (edit : Edit) (name : String)
  | wrongNames
  | withheld (name : String)
  | notANumber (key : String)
  | unhashable
  | notOptions
  | backendMissing (cause : Incident)
  | notOpened (target : Value) (text : String) (cause : Incident)
  | stopped (request : Incident)
  /-- An error has no text because its code has no name. -/
  | namelessCode
  /-- An error has no text because making it ends in an error of this class. -/
  | unwritable (className : String)
  | wrongArguments
  | noMember
  | noMemberValue
  | emptySlot (name : String)

namespace Fault

def failure? : Fault → Option Failure
  | .notAnInteger amount given =>
    some (.invalidArgument (.text (amount.name ++ " must be an integer, got " ++ given.kindName)))
  | .outOfRange amount _ => some (.invalidArgument (.text (amount.name ++ amount.bound.complaint)))
  | .noTransport => some (.missingValue (.text Setting.transport.name))
  | .unknownTransport name => some (.unknownTransport (.text name))
  | .backendMissing _ =>
    some (.connection (.text "gRPC not available. Install with: pip install grpcio"))
  | .notOpened target text _ =>
    some (.connection (.text ("Failed to open channel to " ++ target.display ++ ": " ++ text)))
  | _ => none

def cause? : Fault → Option Incident
  | .backendMissing cause => some cause
  | .notOpened _ _ cause => some cause
  | _ => none

def className : Fault → String
  | .notAnInteger _ _ => FailureKind.invalidArgument.name
  | .outOfRange _ _ => FailureKind.invalidArgument.name
  | .noTransport => FailureKind.missingValue.name
  | .unknownTransport _ => FailureKind.unknownTransport.name
  | .backendMissing _ => FailureKind.connection.name
  | .notOpened _ _ _ => FailureKind.connection.name
  | .noSetter _ => "AttributeError"
  | .noField _ => "AttributeError"
  | .notOptions => "AttributeError"
  | .namelessCode => "AttributeError"
  | .reserved name => if name = "__weakref__" then "AttributeError" else "TypeError"
  | .wrongNames => "TypeError"
  | .notANumber _ => "TypeError"
  | .unhashable => "TypeError"
  | .wrongArguments => "TypeError"
  | .withheld _ => "ValueError"
  | .noMemberValue => "ValueError"
  | .noMember => "KeyError"
  | .emptySlot _ => "KeyError"
  | .frozen _ _ => "FrozenInstanceError"
  | .stopped request => request.className
  | .unwritable className => className

theorem className_of_failure? {fault : Fault} {failure : Failure}
    (reported : fault.failure? = some failure) : fault.className = failure.kind.name := by
  cases fault <;> cases reported <;> rfl

def frozenMessage (edit : Edit) (name : String) : String :=
  (match edit with
    | .assign => "cannot assign to field "
    | .delete => "cannot delete field ") ++ Text.quotedText name

end Fault

namespace Failure

def make (kind : FailureKind) (arguments : List Value) (named : List (String × Value)) :
    Except Fault Failure :=
  (make? kind arguments named).elim (.error .wrongArguments) .ok

def text (failure : Failure) : Except Fault String :=
  failure.display?.elim (.error .namelessCode) .ok

end Failure

end ChannelTuning
