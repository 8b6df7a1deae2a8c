import ChannelTuning.Number.Exact

namespace ChannelTuning

/-- A floating-point value, known by its sign and the shortest decimal that rounds to it. -/
inductive Floating where
  | nan
  | infinite (negative : Bool)
  | finite (negative : Bool) (magnitude : Decimal)
  deriving DecidableEq

namespace Floating

def signText (negative : Bool) : List Char := if negative then ['-'] else []

def text : Floating → List Char
  | .nan => ['n', 'a', 'n']
  | .infinite negative => signText negative ++ ['i', 'n', 'f']
  | .finite negative magnitude => signText negative ++ magnitude.text

def readUnsigned? (negative : Bool) (cs : List Char) : Option Floating :=
  if cs = ['i', 'n', 'f'] then some (.infinite negative)
  else (Decimal.ofText? cs).map (.finite negative)

def ofText? (s : String) : Option Floating :=
  match s.toList with
  | ['n', 'a', 'n'] => some .nan
  | '-' :: cs => readUnsigned? true cs
  | cs => readUnsigned? false cs

def number : Floating → Number
  | .nan => .nan
  | .infinite negative => .infinite negative
  | .finite negative magnitude =>
    match magnitude.nearest with
    | none => .infinite negative
    | some q => .finite (if negative then -q else q)

end Floating

end ChannelTuning
