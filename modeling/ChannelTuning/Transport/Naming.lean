import ChannelTuning.Fault
import ChannelTuning.Text.Blank
import ChannelTuning.Text.Capital

namespace ChannelTuning.Transport

def named? (name : List Char) : Option Transport := all.find? fun t => t.name.toList == name

theorem named?_name (t : Transport) : named? t.name.toList = some t := by
  cases t <;> rfl

/-- Finds a transport by its name, whatever the case of the letters and the blanks around them.
    Nothing but a text is a name, a transport itself included. -/
def ofName : Value → Except Fault Transport
  | .null => .error .noTransport
  | .text s =>
    match named? (Text.capitalized (Text.trimmed s.toList)) with
    | some t => .ok t
    | none => .error (.unknownTransport s)
  | v => .error (.unknownTransport v.display)

theorem fault_of_refused {s : String} {fault : Fault} (refused : ofName (.text s) = .error fault) :
    fault = .unknownTransport s := by
  simp only [ofName] at refused
  split at refused
  · cases refused
  · cases refused
    rfl

def accept : Value → Except Fault Transport
  | .transport t => .ok t
  | v => ofName v

end ChannelTuning.Transport
