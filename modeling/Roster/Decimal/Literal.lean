import Roster.Text.Blank
import Roster.Text.Digit

/-!
# Numbers as text gives them

A literal is a signed decimal, an infinity or not a number. The reader takes decimal digits of every
script, single underscores between digits, an optional point and exponent, and the words for the
values that are not finite, all with blanks around.
-/

namespace Roster.Decimal

/-- A number as text gives it; the finite ones are `digits · 10 ^ exponent` with a sign. -/
inductive Literal where
  | nan
  | infinite (negative : Bool)
  | finite (negative : Bool) (digits : Nat) (exponent : Int)
  deriving DecidableEq, Repr

/-- White space among the seven-bit characters. -/
def isSpace (c : Char) : Bool := c == ' ' || (9 ≤ c.toNat && c.toNat ≤ 13)

/-- A code point as the number reader sees it: digits of every script as those from `0` to `9`,
blank characters beyond the seven-bit ones as spaces, other such code points as a mark that fits
nowhere. -/
def plainChar : CodePoint → Char
  | .half _ => '?'
  | .char c =>
    if c.toNat < 127 then c
    else if Text.isBlank c then ' '
    else
      match Text.digitValue? c with
      | some d => Text.digitChar d
      | none => '?'

/-- A text without its underscores, each of which has to stand between two digits; `digit` says
whether the character before is one. -/
def dropUnderscores (digit : Bool) : List Char → Option (List Char)
  | [] => some []
  | '_' :: c :: rest =>
    if digit && Text.isAsciiDigit c then (dropUnderscores true rest).map (c :: ·) else none
  | c :: rest =>
    if c = '_' then none else (dropUnderscores (Text.isAsciiDigit c) rest).map (c :: ·)

/-- The characters of a number's text without blanks around them and underscores between them. -/
def numberChars (s : Text) : Option (List Char) :=
  dropUnderscores false (Text.trimBy isSpace (s.toList.map plainChar))

/-- A sign at the front of a text, and the rest. -/
def takeSign : List Char → Bool × List Char
  | '-' :: rest => (true, rest)
  | '+' :: rest => (false, rest)
  | s => (false, s)

/-- The digits at the front of a text, and the rest. -/
def takeDigits (s : List Char) : List Char × List Char :=
  (s.takeWhile Text.isAsciiDigit, s.dropWhile Text.isAsciiDigit)

/-- A whole exponent, with nothing after it. -/
def exponentOf? (s : List Char) : Option Int :=
  let (negative, s) := takeSign s
  if s.isEmpty || !s.all Text.isAsciiDigit then none
  else
    let n : Int := Text.digitsValue s
    some (if negative then -n else n)

/-- The exponent that stands at the end of a number's text; nothing stands for zero. -/
def exponentPart? : List Char → Option Int
  | [] => some 0
  | c :: rest => if c = 'e' || c = 'E' then exponentOf? rest else none

/-- A decimal without sign: digits, an optional point and digits, an optional exponent. At least one
digit stands before the exponent. -/
def unsigned? (negative : Bool) (s : List Char) : Option Literal :=
  let (whole, rest) := takeDigits s
  let (places, rest) :=
    match rest with
    | '.' :: rest => takeDigits rest
    | rest => ([], rest)
  if whole.isEmpty && places.isEmpty then none
  else
    (exponentPart? rest).map fun e =>
      .finite negative (Text.digitsValue (whole ++ places)) (e - places.length)

/-- The literal that a text spells, if it spells one. -/
def Literal.ofText? (s : Text) : Option Literal :=
  match numberChars s with
  | none => none
  | some cs =>
    let (negative, body) := takeSign cs
    let word := body.map Char.toLower
    if word = "nan".toList then some .nan
    else if word = "inf".toList || word = "infinity".toList then some (.infinite negative)
    else unsigned? negative body

/-- The most digits that a whole number's text may have. -/
def wholeDigitLimit : Nat := 4300

/-- The whole number that a text spells, if it spells one within the limit. -/
def wholeOfText? (s : Text) : Option Int :=
  match numberChars s with
  | none => none
  | some cs =>
    let (negative, ds) := takeSign cs
    if ds.isEmpty || !ds.all Text.isAsciiDigit || wholeDigitLimit < ds.length then none
    else
      let n : Int := Text.digitsValue ds
      some (if negative then -n else n)

/-- A whole number's text, if it keeps within the limit. -/
def wholeText? (n : Int) : Option String :=
  if wholeDigitLimit < (toString n.natAbs).length then none else some (toString n)

/-- What is said of a whole number whose text is beyond the limit. -/
def wholeTooLong : String :=
  s!"Exceeds the limit ({wholeDigitLimit} digits) for integer string conversion; "
    ++ "use sys.set_int_max_str_digits() to increase the limit"

/-- What number readers take for digits loses nothing. -/
theorem takeDigits_append (s : List Char) : (takeDigits s).1 ++ (takeDigits s).2 = s := by
  simp [takeDigits]

example : Literal.ofText? " +1_0.5e-3\n" = some (.finite false 105 (-4)) := by decide +kernel
example : Literal.ofText? "1__0" = none ∧ Literal.ofText? "." = none := by decide +kernel
example : Literal.ofText? "-Infinity" = some (.infinite true) := by decide +kernel

end Roster.Decimal
