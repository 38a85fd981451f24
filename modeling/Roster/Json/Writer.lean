import Roster.Json.Basic

/-!
# Writing JSON text

Documents on one line in seven-bit characters: a comma and a colon have a space behind them, and
other characters are escaped by their sixteen-bit units.
-/

namespace Roster.Json

/-- A sixteen-bit unit as an escape. -/
def unitEscape (n : Nat) : List Char := '\\' :: 'u' :: Text.hexDigits 4 n

/-- A character between the quotes of a document's text. -/
def writeChar (c : Char) : List Char :=
  if c = '"' || c = '\\' then ['\\', c]
  else if c = '\n' then ['\\', 'n']
  else if c = '\r' then ['\\', 'r']
  else if c = '\t' then ['\\', 't']
  else if c = '\x08' then ['\\', 'b']
  else if c = '\x0c' then ['\\', 'f']
  else if 0x20 ≤ c.toNat ∧ c.toNat < 0x7F then [c]
  else if c.toNat < 0x10000 then unitEscape c.toNat
  else
    let n := c.toNat - 0x10000
    unitEscape (0xD800 + n / 0x400) ++ unitEscape (0xDC00 + n % 0x400)

/-- A code point between the quotes of a document's text. -/
def writeCodePoint : CodePoint → List Char
  | .char c => writeChar c
  | .half index => unitEscape (CodePoint.half index).toNat

/-- A text in a document. -/
def writeString (s : Text) : String :=
  String.ofList ('"' :: s.toList.flatMap writeCodePoint ++ ['"'])

mutual

/-- A value as a document. -/
def write {α : Type} [Numeral α] : Json α → String
  | .null => "null"
  | .bool b => if b then "true" else "false"
  | .number n => n.text
  | .string s => writeString s
  | .array items => "[" ++ String.intercalate ", " (writeItems items) ++ "]"
  | .object members => "\x7b" ++ String.intercalate ", " (writeMembers members) ++ "\x7d"

/-- The items of an array in a document. -/
def writeItems {α : Type} [Numeral α] : List (Json α) → List String
  | [] => []
  | v :: rest => write v :: writeItems rest

/-- The members of an object in a document. -/
def writeMembers {α : Type} [Numeral α] : Members α → List String
  | [] => []
  | (k, v) :: rest => (writeString k ++ ": " ++ write v) :: writeMembers rest

end

end Roster.Json
