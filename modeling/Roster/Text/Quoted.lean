import Roster.Text.Basic
import Roster.Text.Printable

/-!
# Quoted texts

A text in quotes as diagnostics show it. The quotes are single unless the text holds a single quote
and no double one. The active quote, the backslash and the three common layout characters are
escaped by a backslash, other characters that are not printable by their number in sixteens: two
digits up to the eighth bit, four up to the sixteenth, else eight. Halves are escaped by their
numbers, so that a quoted text has none.
-/

namespace Roster.Text

/-- A number in sixteens with at least the given count of digits. -/
def hexDigits (width n : Nat) : List Char :=
  let ds := Nat.toDigits 16 n
  List.replicate (width - ds.length) '0' ++ ds

/-- The quote that a text is put into. -/
def quoteFor (s : List CodePoint) : Char :=
  if s.contains (.char '\x27') && !s.contains (.char '"') then '"' else '\x27'

/-- One character between the given quotes. -/
def quoteChar (quote c : Char) : List Char :=
  if c = quote || c = '\\' then ['\\', c]
  else if c = '\t' then ['\\', 't']
  else if c = '\n' then ['\\', 'n']
  else if c = '\r' then ['\\', 'r']
  else if isPrintable c then [c]
  else if c.toNat < 0x100 then '\\' :: 'x' :: hexDigits 2 c.toNat
  else if c.toNat < 0x10000 then '\\' :: 'u' :: hexDigits 4 c.toNat
  else '\\' :: 'U' :: hexDigits 8 c.toNat

/-- One code point between the given quotes. -/
def quoteCodePoint (quote : Char) : CodePoint → List Char
  | .char c => quoteChar quote c
  | .half index => '\\' :: 'u' :: hexDigits 4 (CodePoint.half index).toNat

/-- A text in quotes. -/
def quoted (s : Text) : String :=
  let quote := quoteFor s.toList
  String.ofList (quote :: s.toList.flatMap (quoteCodePoint quote) ++ [quote])

example : quoted "it's" = "\"it's\"" := by decide +kernel
example : quoted "a\t'\"\u200b" = "'a\\t\\'\"\\u200b'" := by decide +kernel
example : quoted ⟨[.ofUnit 0xDE00, .char 'a', .ofUnit 0xD83D]⟩ = "'\\ude00a\\ud83d'" := by
  decide +kernel

end Roster.Text
