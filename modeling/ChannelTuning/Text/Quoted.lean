import ChannelTuning.Text.Printable

namespace ChannelTuning.Text

def hexDigits : Nat → Nat → List Char
  | 0, _ => []
  | width + 1, n => hexDigits width (n / 16) ++ [Nat.digitChar (n % 16)]

def escapeNumber (code : Nat) : List Char :=
  if code < 0x100 then '\\' :: 'x' :: hexDigits 2 code
  else if code < 0x10000 then '\\' :: 'u' :: hexDigits 4 code
  else '\\' :: 'U' :: hexDigits 8 code

/-- The written form of a character between quotes; `plain` says which characters need none. -/
def escape (plain : Char → Bool) (quote c : Char) : List Char :=
  if c = quote ∨ c = '\\' then ['\\', c]
  else if c = '\n' then ['\\', 'n']
  else if c = '\r' then ['\\', 'r']
  else if c = '\t' then ['\\', 't']
  else if plain c then [c]
  else escapeNumber c.toNat

def quoteFor (cs : List Char) : Char :=
  if '\'' ∈ cs ∧ '"' ∉ cs then '"' else '\''

def quoted (plain : Char → Bool) (cs : List Char) : List Char :=
  quoteFor cs :: (cs.flatMap (escape plain (quoteFor cs)) ++ [quoteFor cs])

def isPlainByte (c : Char) : Bool := ' ' ≤ c && c ≤ '~'

def quotedText (s : String) : String := String.ofList (quoted isPrintable s.toList)

def quotedBytes (bytes : List UInt8) : String :=
  String.ofList ('b' :: quoted isPlainByte (bytes.map fun byte => Char.ofNat byte.toNat))

def commaSeparated : List String → String
  | [] => ""
  | [s] => s
  | s :: rest => s ++ ", " ++ commaSeparated rest

end ChannelTuning.Text
