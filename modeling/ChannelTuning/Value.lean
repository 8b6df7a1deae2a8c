import ChannelTuning.Number.Floating
import ChannelTuning.Transport
import ChannelTuning.Code

namespace ChannelTuning

inductive Value where
  | null
  | bool (b : Bool)
  | int (n : Int)
  | float (x : Floating)
  | text (s : String)
  | bytes (data : List UInt8)
  | list (items : List Value)
  | tuple (items : List Value)
  | dict (entries : List (Value × Value))
  | transport (t : Transport)
  | code (c : Code)

namespace Value

@[elab_as_elim, induction_eliminator]
theorem nested {motive : Value → Prop} (null : motive .null) (bool : ∀ b, motive (.bool b))
    (int : ∀ n, motive (.int n)) (float : ∀ x, motive (.float x)) (text : ∀ s, motive (.text s))
    (bytes : ∀ data, motive (.bytes data))
    (list : ∀ items, (∀ v ∈ items, motive v) → motive (.list items))
    (tuple : ∀ items, (∀ v ∈ items, motive v) → motive (.tuple items))
    (dict : ∀ entries, (∀ entry ∈ entries, motive entry.1 ∧ motive entry.2) →
      motive (.dict entries))
    (transport : ∀ t, motive (.transport t)) (code : ∀ c, motive (.code c)) (v : Value) :
    motive v :=
  @Value.rec motive (fun items => ∀ v ∈ items, motive v)
    (fun entries => ∀ entry ∈ entries, motive entry.1 ∧ motive entry.2)
    (fun entry => motive entry.1 ∧ motive entry.2)
    null bool int float text bytes list tuple dict transport code
    (List.forall_mem_nil _) (fun _ _ first rest => List.forall_mem_cons.mpr ⟨first, rest⟩)
    (List.forall_mem_nil _) (fun _ _ first rest => List.forall_mem_cons.mpr ⟨first, rest⟩)
    (fun _ _ key value => ⟨key, value⟩) v

def kindName : Value → String
  | .null => "NoneType"
  | .bool _ => "bool"
  | .int _ => "int"
  | .float _ => "float"
  | .text _ => "str"
  | .bytes _ => "bytes"
  | .list _ => "list"
  | .tuple _ => "tuple"
  | .dict _ => "dict"
  | .transport _ => "ChannelType"
  | .code _ => "ErrorCode"

def isTruthy : Value → Bool
  | .null => false
  | .bool b => b
  | .int n => n != 0
  | .float x => x.number != .finite 0
  | .text s => s != ""
  | .bytes data => !data.isEmpty
  | .list items => !items.isEmpty
  | .tuple items => !items.isEmpty
  | .dict entries => !entries.isEmpty
  | .transport _ => true
  | .code _ => true

def number? : Value → Option Number
  | .bool b => some (.finite (if b then 1 else 0))
  | .int n => some (.finite n)
  | .float x => some x.number
  | _ => none

def label? : Value → Option String
  | .transport t => some t.name
  | .code c => some c.name
  | _ => none

def payload? : Value → Option Value
  | .transport t => some (.text t.token)
  | .code c => some (.int c.number)
  | _ => none

mutual

def isHashable : Value → Bool
  | .list _ => false
  | .dict _ => false
  | .tuple items => areHashable items
  | _ => true

def areHashable : List Value → Bool
  | [] => true
  | item :: rest => item.isHashable && areHashable rest

end

end Value

end ChannelTuning
