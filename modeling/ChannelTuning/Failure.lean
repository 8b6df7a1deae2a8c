import ChannelTuning.Value.Rendering

namespace ChannelTuning

inductive FailureKind where
  | general
  | invalidArgument
  | missingValue
  | unknownTransport
  | connection
  deriving DecidableEq

structure Givens where
  value : Option Value
  code : Option Value

namespace FailureKind

def all : List FailureKind :=
  [.general, .invalidArgument, .missingValue, .unknownTransport, .connection]

def name : FailureKind → String
  | general => "GrpcOptionsError"
  | invalidArgument => "InvalidArgumentError"
  | missingValue => "MissingValueError"
  | unknownTransport => "UnknownChannelTypeError"
  | connection => "ConnectionError"

def named? (name : String) : Option FailureKind := all.find? fun kind => kind.name == name

def lineage : FailureKind → List FailureKind
  | general => [general]
  | kind => [kind, general]

def code : FailureKind → Code
  | general => .unknown
  | invalidArgument => .invalidArgument
  | missingValue => .missingValue
  | unknownTransport => .unknownTransport
  | connection => .unavailable

def parameter : FailureKind → String
  | missingValue => "field_name"
  | unknownTransport => "name"
  | _ => "message"

def inOrder? : FailureKind → List Value → Option Givens
  | _, [] => some ⟨none, none⟩
  | _, [value] => some ⟨some value, none⟩
  | general, [value, code] => some ⟨some value, some code⟩
  | _, _ => none

def withNamed? (kind : FailureKind) (givens : Givens) (named : String × Value) : Option Givens :=
  if named.1 = kind.parameter ∧ givens.value.isNone then
    some { givens with value := named.2 }
  else if named.1 = "code" ∧ kind = general ∧ givens.code.isNone then
    some { givens with code := named.2 }
  else none

def withAllNamed? (kind : FailureKind) (givens : Givens) (named : List (String × Value)) :
    Option Givens :=
  named.foldlM kind.withNamed? givens

def arityComplaint (kind : FailureKind) (count : Nat) : String :=
  if count = 0 then
    kind.name ++ ".__init__() missing 1 required positional argument: '" ++ kind.parameter ++ "'"
  else
    kind.name ++ ".__init__() takes " ++ (if kind = general then "from 2 to 3" else "2") ++
      " positional arguments but " ++ toString (count + 1) ++ " were given"

end FailureKind

/-- An error of the library. Its message and its code can be any values, it remembers the missing
    field or the unknown name that it is about, and it keeps the arguments that errors of every
    kind have. -/
structure Failure where
  kind : FailureKind
  message : Value
  code : Value
  subject : Option Value
  arguments : List Value

namespace Failure

def ofMessage (kind : FailureKind) (message code : Value) (subject : Option Value) : Failure :=
  ⟨kind, message, code, subject, [message]⟩

def general (message code : Value) : Failure := ofMessage .general message code none

def invalidArgument (message : Value) : Failure :=
  ofMessage .invalidArgument message (.code FailureKind.invalidArgument.code) none

def missingValue (field : Value) : Failure :=
  ofMessage .missingValue (.text (field.display ++ " must not be None"))
    (.code FailureKind.missingValue.code) (some field)

def unknownTransport (name : Value) : Failure :=
  ofMessage .unknownTransport (.text ("Unknown channel type: " ++ name.literal))
    (.code FailureKind.unknownTransport.code) (some name)

def connection (message : Value) : Failure :=
  ofMessage .connection message (.code FailureKind.connection.code) none

def ofGiven : FailureKind → Value → Option Value → Failure
  | .general, message, code => general message (code.getD (.code FailureKind.general.code))
  | .invalidArgument, message, _ => invalidArgument message
  | .missingValue, field, _ => missingValue field
  | .unknownTransport, name, _ => unknownTransport name
  | .connection, message, _ => connection message

/-- Makes an error from the values that a caller gives, in order and by name. Every kind takes one
    value; a general error also takes a code. -/
def make? (kind : FailureKind) (arguments : List Value) (named : List (String × Value)) :
    Option Failure := do
  let givens ← kind.withAllNamed? (← kind.inOrder? arguments) named
  return ofGiven kind (← givens.value) givens.code

/-- The text of an error: the name of its code in brackets, and the message. An error whose code
    has no name has no text. -/
def display? (failure : Failure) : Option String :=
  failure.code.label?.map fun label => "[" ++ label ++ "] " ++ failure.message.display

def literal (failure : Failure) : String :=
  failure.kind.name ++
    match failure.arguments with
    | [argument] => "(" ++ argument.literal ++ ")"
    | arguments => (Value.tuple arguments).literal

end Failure

end ChannelTuning
