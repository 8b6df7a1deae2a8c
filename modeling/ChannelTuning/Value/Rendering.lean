import ChannelTuning.Value
import ChannelTuning.Text.Quoted

namespace ChannelTuning.Value

open Text

def tupled : List String → String
  | [s] => "(" ++ s ++ ",)"
  | items => "(" ++ commaSeparated items ++ ")"

mutual

/-- The form of a value that names its kind and content exactly: texts in quotes, unprintable
    characters escaped. Every integer has one, as no limit is set to the number of digits, and a text
    consists of Unicode scalar values, so that surrogates are left out. -/
def literal : Value → String
  | .null => "None"
  | .bool b => if b then "True" else "False"
  | .int n => toString n
  | .float x => String.ofList x.text
  | .text s => quotedText s
  | .bytes data => quotedBytes data
  | .list items => "[" ++ commaSeparated (literals items) ++ "]"
  | .tuple items => tupled (literals items)
  | .dict entries => "\x7b" ++ commaSeparated (entryLiterals entries) ++ "\x7d"
  | .transport t => "<ChannelType." ++ t.name ++ ": " ++ quotedText t.token ++ ">"
  | .code c => "<ErrorCode." ++ c.name ++ ": " ++ toString c.number ++ ">"

def literals : List Value → List String
  | [] => []
  | item :: rest => item.literal :: literals rest

def entryLiterals : List (Value × Value) → List String
  | [] => []
  | (key, value) :: rest => (key.literal ++ ": " ++ value.literal) :: entryLiterals rest

end

/-- The form of a value in running text: a text as it is, a member of an enumeration by the names
    of both, all else as its literal, with integers of any length and no surrogates as there. -/
def display : Value → String
  | .text s => s
  | .transport t => "ChannelType." ++ t.name
  | .code c => "ErrorCode." ++ c.name
  | v => v.literal

end ChannelTuning.Value

namespace ChannelTuning

def braced (title : String) (entries : List (String × Value)) : String :=
  title ++ "\x7b" ++ Text.commaSeparated (entries.map fun entry => entry.1 ++ "=" ++ shown entry.2) ++
    "\x7d"
where
  shown : Value → String
    | .transport t => t.name
    | v => v.display

end ChannelTuning
