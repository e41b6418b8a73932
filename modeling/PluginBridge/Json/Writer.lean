import PluginBridge.Text.Quoted

/-! # Writing a document

Documents are written without blanks. A text escapes its quotes, backslashes and controls and
nothing else: five controls have letters, and the others are written with four digits in base
sixteen. -/

namespace PluginBridge.Json

/-- The escape of a control below a space that has no letter. -/
def controlEscape (c : Char) : List Char :=
  ['\\', 'u', '0', '0', Text.hexDigit (c.toNat / 16), Text.hexDigit (c.toNat % 16)]

/-- One character as it stands inside a text. -/
def escapeChar (c : Char) : List Char :=
  match c with
  | '"' => ['\\', '"']
  | '\\' => ['\\', '\\']
  | '\x08' => ['\\', 'b']
  | '\x0C' => ['\\', 'f']
  | '\n' => ['\\', 'n']
  | '\r' => ['\\', 'r']
  | '\t' => ['\\', 't']
  | c => if c.toNat < 0x20 then controlEscape c else [c]

/-- A text between its quotes. -/
def writeText (s : String) : List Char := '"' :: s.toList.flatMap escapeChar ++ ['"']

/-- A whole number. -/
def writeNatural (n : Nat) : List Char := (toString n).toList

/-- A truth value. -/
def writeBool (b : Bool) : List Char := (if b then "true" else "false").toList

/-- Items with commas between them. -/
def commaSeparated : List (List Char) → List Char
  | [] => []
  | [x] => x
  | x :: y :: rest => x ++ ',' :: commaSeparated (y :: rest)

/-- A sequence. -/
def writeSequence (items : List (List Char)) : List Char := '[' :: commaSeparated items ++ [']']

/-- One entry of a map. -/
def writeEntry (entry : String × List Char) : List Char := writeText entry.1 ++ ':' :: entry.2

/-- A map. -/
def writeMap (entries : List (String × List Char)) : List Char :=
  '\x7b' :: commaSeparated (entries.map writeEntry) ++ ['\x7d']

end PluginBridge.Json
