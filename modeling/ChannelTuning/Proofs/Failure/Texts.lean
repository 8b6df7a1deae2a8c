import ChannelTuning.Fault
import ChannelTuning.Proofs.Value.Literals
import ChannelTuning.Proofs.Value.Named

namespace ChannelTuning

open Text

namespace Code

theorem isWord_name (c : Code) : IsWord c.name.toList := by
  refine List.all_eq_true.mp ?_
  cases c <;> decide

def named? (name : List Char) : Option Code := all.find? fun c => c.name.toList == name

theorem named?_name (c : Code) : named? c.name.toList = some c := by
  cases c <;> rfl

end Code

namespace FailureKind

/-- A caller gives one value for an error, with its name or without. For a general error there may
    be a code too, beside the value or by name; otherwise the code is that of the kind. -/
inductive Gives : FailureKind → List Value → List (String × Value) → Value → Value → Prop
  | value (kind : FailureKind) (v : Value) : Gives kind [v] [] v (.code kind.code)
  | valueByName (kind : FailureKind) (v : Value) :
    Gives kind [] [(kind.parameter, v)] v (.code kind.code)
  | codeBeside (v code : Value) : Gives general [v, code] [] v code
  | codeByName (v code : Value) : Gives general [v] [("code", code)] v code
  | codeBehind (v code : Value) : Gives general [] [("message", v), ("code", code)] v code
  | codeAhead (v code : Value) : Gives general [] [("code", code), ("message", v)] v code

section

variable {kind : FailureKind} {arguments : List Value} {named : List (String × Value)}
  {givens final : Givens} {v code : Value}

end

def messageAbout : FailureKind → Value → Value
  | missingValue, field => .text (field.display ++ " must not be None")
  | unknownTransport, name => .text ("Unknown channel type: " ++ name.literal)
  | _, message => message

def subjectAbout : FailureKind → Value → Option Value
  | missingValue, field => some field
  | unknownTransport, name => some name
  | _, _ => none

end FailureKind

namespace Failure

open FailureKind

def about (kind : FailureKind) (v code : Value) : Failure :=
  ofMessage kind (kind.messageAbout v) code (kind.subjectAbout v)

section

variable {kind : FailureKind} {arguments : List Value} {named : List (String × Value)}
  {v code : Value} {failure : Failure}

end

end Failure

end ChannelTuning
