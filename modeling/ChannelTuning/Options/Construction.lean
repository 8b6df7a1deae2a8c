import ChannelTuning.Options
import ChannelTuning.Fault

namespace ChannelTuning.Options

def given? (entries : List (String × Value)) (name : String) : Option Value :=
  entries.reverse.lookup name

def isSettingName (name : String) : Bool := (Setting.named? name).isSome

def isWithheldName (name : String) : Bool := (Field.named? name).any Field.isWithheld

def requireTransport (o : Options) : Except Fault Options :=
  match o.transport with
  | .null => .error .noTransport
  | _ => .ok o

def construct (entries : List (String × Value)) : Except Fault Options :=
  if (entries.all fun entry => isSettingName entry.1) ∧
      Setting.all.all fun s => (given? entries s.name).isSome then
    requireTransport (ofSettings fun s => (given? entries s.name).getD .null)
  else .error .wrongNames

/-- Makes an option from another one with other values for some settings. The withheld fields are
    not taken over. -/
def replace (o : Options) (entries : List (String × Value)) : Except Fault Options :=
  match entries.find? fun entry => isWithheldName entry.1 with
  | some entry => .error (.withheld entry.1)
  | none =>
    if entries.all fun entry => isSettingName entry.1 then
      requireTransport (ofSettings fun s => (given? entries s.name).getD (o.get s))
    else .error .wrongNames

def setSize (os : List Options) : Except Fault Nat :=
  if os.all isHashable then .ok (distinctCount os) else .error .unhashable

end ChannelTuning.Options
