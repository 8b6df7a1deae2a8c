import ChannelTuning.Fault
import ChannelTuning.Value.Equality

namespace ChannelTuning

inductive Enumeration where
  | codes
  | transports
  deriving DecidableEq

namespace Enumeration

def members : Enumeration → List Value
  | codes => Code.all.map .code
  | transports => Transport.all.map .transport

def byName (e : Enumeration) : Value → Except Fault Value
  | .text s =>
    match e.members.find? fun member => member.label? == some s with
    | some member => .ok member
    | none => .error .noMember
  | key => if key.isHashable then .error .noMember else .error .unhashable

/-- The member that carries a value equal to the given one, or is itself the given one. -/
def byValue (e : Enumeration) (value : Value) : Except Fault Value :=
  match e.members.find? fun member => value.equal member || member.payload?.any value.equal with
  | some member => .ok member
  | none => .error .noMemberValue

end Enumeration

end ChannelTuning
