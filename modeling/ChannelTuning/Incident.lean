import ChannelTuning.Failure

namespace ChannelTuning

inductive BackendFunction where
  | credentials
  | secure
  | insecure
  deriving DecidableEq

namespace BackendFunction

def all : List BackendFunction := [.credentials, .secure, .insecure]

def name : BackendFunction → String
  | credentials => "ssl_channel_credentials"
  | secure => "secure_channel"
  | insecure => "insecure_channel"

def named? (name : String) : Option BackendFunction := all.find? fun f => f.name == name

end BackendFunction

inductive Incident where
  | unloadable (className : String) (arguments : List Value)
  | absent (function : BackendFunction)
  | stop (className : String) (arguments : List Value)
  | missingKey (arguments : List Value)
  | system (className : String) (arguments : List Value)
  | own (failure : Failure)
  /-- An error of any other class makes its text in its own way. That may end in an error itself,
      of which the class is given in place of the text. -/
  | other (className : String) (text : Except String String)

namespace Incident

def argumentsText : List Value → String
  | [] => ""
  | [argument] => argument.display
  | arguments => (Value.tuple arguments).literal

def systemClasses : List (Int × String) :=
  [(1, "PermissionError"), (2, "FileNotFoundError"), (3, "ProcessLookupError"),
    (4, "InterruptedError"), (10, "ChildProcessError"), (11, "BlockingIOError"),
    (13, "PermissionError"), (17, "FileExistsError"), (20, "NotADirectoryError"),
    (21, "IsADirectoryError"), (32, "BrokenPipeError"), (103, "ConnectionAbortedError"),
    (104, "ConnectionResetError"), (108, "BrokenPipeError"), (110, "TimeoutError"),
    (111, "ConnectionRefusedError"), (114, "BlockingIOError"), (115, "BlockingIOError")]

def systemNumber? (arguments : List Value) : Option Int :=
  if 2 ≤ arguments.length ∧ arguments.length ≤ 5 then
    match arguments.head? with
    | some (.int n) => some n
    | some (.bool b) => some (if b then 1 else 0)
    | _ => none
  else none

def systemClass (className : String) (arguments : List Value) : String :=
  if className = "OSError" then
    ((systemNumber? arguments).bind (systemClasses.lookup ·)).getD className
  else className

/-- The file that a system error is about. An operation that would have to wait gives in its place
    how much of it was done. -/
def fileText (className : String) : Value → Option String
  | .null => none
  | .int n => if className = "BlockingIOError" then none else some (Value.int n).literal
  | .bool b => if className = "BlockingIOError" then none else some (Value.bool b).literal
  | file => some file.literal

def systemText (className : String) (arguments : List Value) : String :=
  match arguments with
  | [number, description] => "[Errno " ++ number.display ++ "] " ++ description.display
  | [number, description, file] => about number description (fileText className file) none
  | [number, description, file, _] => about number description (fileText className file) none
  | [number, description, file, _, second] =>
    about number description (fileText className file) (fileText "" second)
  | _ => argumentsText arguments
where
  about (number description : Value) (file second : Option String) : String :=
    "[Errno " ++ number.display ++ "] " ++ description.display ++
      match file, second with
      | none, _ => ""
      | some file, none => ": " ++ file
      | some file, some second => ": " ++ file ++ " -> " ++ second

def className : Incident → String
  | .unloadable className _ => className
  | .absent _ => "AttributeError"
  | .stop className _ => className
  | .missingKey _ => "KeyError"
  | .system className arguments => systemClass className arguments
  | .own failure => failure.kind.name
  | .other className _ => className

def display? : Incident → Option String
  | .unloadable _ arguments => some (argumentsText arguments)
  | .absent function => some ("module 'grpc' has no attribute '" ++ function.name ++ "'")
  | .stop _ arguments => some (argumentsText arguments)
  | .missingKey [key] => some key.literal
  | .missingKey arguments => some (argumentsText arguments)
  | .system className arguments => some (systemText (systemClass className arguments) arguments)
  | .own failure => failure.display?
  | .other _ text => text.toOption

/-- What is wrong with a value as the count of what was done; it has to be an integer of 64 bits. A
    value that is no number at all is not a count, but a file. -/
def countFault? : Value → Option Incident
  | .float _ =>
    some (.other "TypeError" (.ok "'float' object cannot be interpreted as an integer"))
  | .int n =>
    if -9223372036854775808 ≤ n ∧ n ≤ 9223372036854775807 then none
    else some (.other "ValueError" (.ok "cannot fit 'int' into an index-sized integer"))
  | _ => none

def ofSystem (className : String) (arguments : List Value) : Incident :=
  if systemClass className arguments = "BlockingIOError" ∧ arguments.length ≤ 5 then
    (arguments[2]?.bind countFault?).getD (.system className arguments)
  else .system className arguments

/-- The incident of a class with given arguments. An error of this library that cannot be made from
    them gives way to one about their number. -/
def ofClass (className : String) (arguments : List Value) : Incident :=
  match FailureKind.named? className with
  | some kind =>
    match Failure.make? kind arguments [] with
    | some failure => .own failure
    | none => .other "TypeError" (.ok (kind.arityComplaint arguments.length))
  | none =>
    if className ∈ ["ImportError", "ModuleNotFoundError"] then .unloadable className arguments
    else if className ∈ ["BaseException", "GeneratorExit", "KeyboardInterrupt", "SystemExit"] then
      .stop className arguments
    else if className = "KeyError" then .missingKey arguments
    else if className ∈ ["OSError", "IOError", "EnvironmentError"] then
      ofSystem "OSError" arguments
    else if className ∈ systemClasses.map Prod.snd then ofSystem className arguments
    else .other className (.ok (argumentsText arguments))

end Incident

end ChannelTuning
