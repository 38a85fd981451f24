import Roster.Json.Basic

/-!
# Reading JSON text

A text is read from the left, at each place by the first character. Besides the standard's values,
`NaN`, `Infinity` and `-Infinity` are numbers. Of members with one key the last counts, in the place
of the first. A text that is no document is refused at a position, with what was expected there;
whole numbers have a limit of digits, arrays and objects one of depth.
-/

namespace Roster.Json

/-- What makes a text no document. -/
inductive Flaw where
  | expectedValue
  | expectedName
  | expectedColon
  | expectedComma
  | extraData
  | unterminatedString
  | controlCharacter
  | badEscape
  | badUnicodeEscape
  | byteOrderMark
  deriving DecidableEq, Repr

/-- What opens a level of a document. -/
inductive Bracket where
  | array
  | object
  deriving DecidableEq, Repr

/-- The word for what a bracket opens. -/
def Bracket.text : Bracket → String
  | .array => "array"
  | .object => "object"

/-- What is said of a bracket that opens a level too many. -/
def Bracket.tooDeepMessage (b : Bracket) : String :=
  s!"maximum recursion depth exceeded while decoding a JSON {b.text} from a unicode string"

/-- The most levels that may be open at a place. -/
def depthLimit : Nat := 990

/-- Why a text is refused: a flaw at a position, a whole number with too many digits, or a bracket
that opens a level too many. -/
inductive ReadError where
  | malformed (flaw : Flaw) (position : Nat)
  | tooManyDigits (count : Nat)
  | tooDeep (bracket : Bracket)
  deriving DecidableEq, Repr

def Flaw.text : Flaw → String
  | .expectedValue => "Expecting value"
  | .expectedName => "Expecting property name enclosed in double quotes"
  | .expectedColon => "Expecting ':' delimiter"
  | .expectedComma => "Expecting ',' delimiter"
  | .extraData => "Extra data"
  | .unterminatedString => "Unterminated string starting at"
  | .controlCharacter => "Invalid control character at"
  | .badEscape => "Invalid \\escape"
  | .badUnicodeEscape => "Invalid \\uXXXX escape"
  | .byteOrderMark => "Unexpected UTF-8 BOM (decode using utf-8-sig)"

/-- The line of a position, counted from one. -/
def lineAt (text : Text) (position : Nat) : Nat :=
  (text.toList.take position).count (.char '\n') + 1

/-- The column of a position in its line, counted from one. -/
def columnAt (text : Text) (position : Nat) : Nat :=
  ((text.toList.take position).reverse.takeWhile (· ≠ .char '\n')).length + 1

/-- What is said of a refused text. -/
def ReadError.message (text : Text) : ReadError → String
  | .malformed flaw position =>
    s!"{flaw.text}: line {lineAt text position} column {columnAt text position} (char {position})"
  | .tooManyDigits count =>
    s!"Exceeds the limit ({Decimal.wholeDigitLimit} digits) for integer string conversion: " ++
      s!"value has {count} digits; use sys.set_int_max_str_digits() to increase the limit"
  | .tooDeep bracket => bracket.tooDeepMessage

/-- A place in a text: its position and the code points from there on. What reads at a place gives
what it read and the place behind it. -/
structure Place where
  position : Nat
  rest : List CodePoint

/-- The place a number of code points further on. -/
def Place.skip (n : Nat) (p : Place) : Place := ⟨p.position + n, p.rest.drop n⟩

/-- A flaw at a place. -/
def Place.fail {β : Type} (flaw : Flaw) (p : Place) : Except ReadError β :=
  .error (.malformed flaw p.position)

/-- White space between the parts of a document. -/
def isGap (c : Char) : Bool := c == ' ' || c == '\t' || c == '\n' || c == '\r'

/-- The place behind the white space at a place. -/
def Place.skipGap (p : Place) : Place := p.skip (Text.charsWhile isGap p.rest).length

/-- The value of a digit in sixteens. -/
def hexDigit? : CodePoint → Option Nat
  | .char c =>
    if '0' ≤ c ∧ c ≤ '9' then some (c.toNat - 48)
    else if 'a' ≤ c ∧ c ≤ 'f' then some (c.toNat - 87)
    else if 'A' ≤ c ∧ c ≤ 'F' then some (c.toNat - 55)
    else none
  | .half _ => none

/-- The value of four digits in sixteens. -/
def hexValue? (ds : List CodePoint) : Option Nat :=
  let ds := ds.take 4
  if ds.length < 4 then none
  else ds.foldlM (fun n c => (hexDigit? c).map fun d => 16 * n + d) 0

/-- The character that a backslash and a letter stand for. -/
def escaped? : Char → Option Char
  | '"' => some '"'
  | '\\' => some '\\'
  | '/' => some '/'
  | 'b' => some '\x08'
  | 'f' => some '\x0c'
  | 'n' => some '\n'
  | 'r' => some '\r'
  | 't' => some '\t'
  | _ => none

/-- Whether more code points than four stand at a place. -/
def isBeyondFour : List CodePoint → Bool
  | _ :: _ :: _ :: _ :: _ :: _ => true
  | _ => false

/-- An escape by number, at the `u`: what it stands for and how many code points it takes. Two units
that form a pair are one character. A document does not end within or right behind an escape. -/
def unicodeEscape (p : Place) : Except ReadError (CodePoint × Nat) :=
  let ds := p.rest.drop 1
  if !isBeyondFour ds then p.fail .badUnicodeEscape
  else
    match hexValue? ds with
    | none => p.fail .badUnicodeEscape
    | some n =>
      match ds.drop 4 with
      | .char '\\' :: .char 'u' :: ds' =>
        if 0xD800 ≤ n ∧ n < 0xDC00 ∧ isBeyondFour ds' then
          match hexValue? ds' with
          | none => (p.skip 6).fail .badUnicodeEscape
          | some n' =>
            if 0xDC00 ≤ n' ∧ n' < 0xE000 then
              .ok (.char (Char.ofNat (0x10000 + (n - 0xD800) * 0x400 + (n' - 0xDC00))), 11)
            else .ok (CodePoint.ofUnit n, 5)
        else .ok (CodePoint.ofUnit n, 5)
      | _ => .ok (CodePoint.ofUnit n, 5)

/-- The code points of a text up to its closing quote. `start` is the position of the opening one;
the fuel is at least the number of code points left. -/
def readCodePoints (start : Nat) : Nat → Place → Except ReadError (List CodePoint × Place)
  | 0, _ => .error (.malformed .unterminatedString start)
  | fuel + 1, p =>
    match p.rest with
    | [] => .error (.malformed .unterminatedString start)
    | .char '"' :: _ => .ok ([], p.skip 1)
    | [.char '\\'] => .error (.malformed .unterminatedString start)
    | .char '\\' :: .char 'u' :: _ => do
      let (c, n) ← unicodeEscape (p.skip 1)
      let (cs, p) ← readCodePoints start fuel (p.skip (1 + n))
      return (c :: cs, p)
    | .char '\\' :: e :: _ =>
      match escaped? e.toChar with
      | none => p.fail .badEscape
      | some c => do
        let (cs, p) ← readCodePoints start fuel (p.skip 2)
        return (.char c :: cs, p)
    | c :: _ =>
      if c.toNat < 0x20 then p.fail .controlCharacter
      else do
        let (cs, p) ← readCodePoints start fuel (p.skip 1)
        return (c :: cs, p)

/-- The text whose opening quote stands at a place. -/
def readString (fuel : Nat) (p : Place) : Except ReadError (Text × Place) := do
  let (cs, q) ← readCodePoints p.position fuel (p.skip 1)
  return (⟨cs⟩, q)

/-- A fraction's digits at a place, its point in front; nothing if no digit follows the point. -/
def fractionAt : List CodePoint → List Char
  | .char '.' :: rest => Text.charsWhile Text.isAsciiDigit rest
  | _ => []

/-- The exponent at a place and how many characters it takes, none if no digit belongs to it. -/
def exponentAt : List CodePoint → Option (Int × Nat)
  | [] => none
  | c :: rest =>
    if c = .char 'e' || c = .char 'E' then
      let (mark, body) :=
        match rest with
        | .char '+' :: body => (some false, body)
        | .char '-' :: body => (some true, body)
        | body => (none, body)
      let ds := Text.charsWhile Text.isAsciiDigit body
      let n : Int := Text.digitsValue ds
      if ds.isEmpty then none
      else some (if mark = some true then -n else n, 1 + (if mark.isSome then 1 else 0) + ds.length)
    else none

/-- The number at a place. A number with a fraction or an exponent is real. -/
def readNumber {α : Type} [Numeral α] (p : Place) : Except ReadError (Number α × Place) :=
  let negative := p.rest.head? == some (.char '-')
  let body := if negative then p.skip 1 else p
  let ds :=
    match body.rest with
    | .char '0' :: _ => ['0']
    | rest => Text.charsWhile Text.isAsciiDigit rest
  if ds.isEmpty then p.fail .expectedValue
  else
    let behind := body.skip ds.length
    let places := fractionAt behind.rest
    let behind := if places.isEmpty then behind else behind.skip (1 + places.length)
    match places, exponentAt behind.rest with
    | [], none =>
      if Decimal.wholeDigitLimit < ds.length then .error (.tooManyDigits ds.length)
      else
        let n : Int := Text.digitsValue ds
        .ok (.whole (if negative then -n else n), behind)
    | _, e =>
      let (e, n) := e.getD (0, 0)
      .ok (.real (Numeral.ofLiteral
        (.finite negative (Text.digitsValue (ds ++ places)) (e - places.length))), behind.skip n)

/-- The words that stand for a value. -/
def words {α : Type} [Numeral α] : List (Text × Json α) :=
  [("null", .null), ("true", .bool true), ("false", .bool false),
    ("NaN", .number (.real (Numeral.ofLiteral .nan))),
    ("Infinity", .number (.real (Numeral.ofLiteral (.infinite false)))),
    ("-Infinity", .number (.real (Numeral.ofLiteral (.infinite true))))]

/-- The word at a place, if there is one. -/
def wordAt? {α : Type} [Numeral α] (p : Place) : Option (Json α × Place) :=
  words.findSome? fun (w, v) =>
    if w.toList.isPrefixOf p.rest then some (v, p.skip w.length) else none

mutual

/-- The value at a place. The fuel bounds the steps down and to the right, of which each code point
takes two at most, and so what is left of the text; `depth` is the number of levels that may still
be opened. -/
def readValue {α : Type} [Numeral α] : Nat → Nat → Place → Except ReadError (Json α × Place)
  | 0, _, p => p.fail .expectedValue
  | fuel + 1, depth, p =>
    match p.rest, depth with
    | .char '"' :: _, _ => do
      let (s, p) ← readString fuel p
      return (.string s, p)
    | .char '\x7b' :: _, 0 => .error (.tooDeep .object)
    | .char '\x7b' :: _, depth + 1 =>
      let p := (p.skip 1).skipGap
      if p.rest.head? = some (.char '\x7d') then .ok (.object [], p.skip 1)
      else do
        let (members, p) ← readMembers fuel depth [] p
        return (.object members, p)
    | .char '[' :: _, 0 => .error (.tooDeep .array)
    | .char '[' :: _, depth + 1 =>
      let p := (p.skip 1).skipGap
      if p.rest.head? = some (.char ']') then .ok (.array [], p.skip 1)
      else do
        let (items, p) ← readItems fuel depth p
        return (.array items, p)
    | _, _ =>
      match wordAt? p with
      | some found => .ok found
      | none => do
        let (n, p) ← readNumber p
        return (.number n, p)

/-- The items of an array from a place on, up to its end. -/
def readItems {α : Type} [Numeral α] :
    Nat → Nat → Place → Except ReadError (List (Json α) × Place)
  | 0, _, p => p.fail .expectedValue
  | fuel + 1, depth, p => do
    let (v, p) ← readValue fuel depth p
    let p := p.skipGap
    match p.rest with
    | .char ']' :: _ => return ([v], p.skip 1)
    | .char ',' :: _ =>
      let (vs, p) ← readItems fuel depth (p.skip 1).skipGap
      return (v :: vs, p)
    | _ => p.fail .expectedComma

/-- The members of an object from a place on, up to its end, put behind those already read. -/
def readMembers {α : Type} [Numeral α] :
    Nat → Nat → Members α → Place → Except ReadError (Members α × Place)
  | 0, _, _, p => p.fail .expectedName
  | fuel + 1, depth, members, p =>
    match p.rest with
    | .char '"' :: _ => do
      let (key, p) ← readString fuel p
      let p := p.skipGap
      match p.rest with
      | .char ':' :: _ =>
        let (v, p) ← readValue fuel depth (p.skip 1).skipGap
        let members := Keyed.put key v members
        let p := p.skipGap
        match p.rest with
        | .char '\x7d' :: _ => return (members, p.skip 1)
        | .char ',' :: _ => readMembers fuel depth members (p.skip 1).skipGap
        | _ => p.fail .expectedComma
      | _ => p.fail .expectedColon
    | _ => p.fail .expectedName

end

/-- The document that a text holds. -/
def read {α : Type} [Numeral α] (text : Text) : Except ReadError (Json α) := do
  if text.toList.head? = some (.char '\ufeff') then .error (.malformed .byteOrderMark 0)
  else
    let (v, p) ← readValue (2 * text.length + 2) depthLimit (Place.skipGap ⟨0, text.toList⟩)
    let p := p.skipGap
    if p.rest.isEmpty then .ok v else p.fail .extraData

end Roster.Json
