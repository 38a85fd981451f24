import Roster.Text.Quoted

/-!
# Texts as bytes

Decoding of UTF-8. A fault is the first place where the bytes stop being well formed: a byte that
begins no character, a byte that does not continue the character begun, or an end within a
character. It spans the bytes of the character begun so far. The other way, halves cannot be
encoded; the first of them, with those right behind it, are the fault of a text.
-/

namespace Roster.Text

/-- Why bytes are no text. -/
inductive Utf8Reason
  | invalidStart
  | invalidContinuation
  | unexpectedEnd
  deriving DecidableEq, Repr

/-- The place of a fault: its first byte, its position and its number of bytes. -/
structure Utf8Fault where
  reason : Utf8Reason
  byte : UInt8
  position : Nat
  length : Nat
  deriving DecidableEq, Repr

def Utf8Reason.text : Utf8Reason → String
  | .invalidStart => "invalid start byte"
  | .invalidContinuation => "invalid continuation byte"
  | .unexpectedEnd => "unexpected end of data"

/-- What is said of a fault; one byte is shown, of several only the places. -/
def Utf8Fault.message (f : Utf8Fault) : String :=
  let what :=
    if f.length = 1 then
      s!"byte 0x{String.ofList (hexDigits 2 f.byte.toNat)} in position {f.position}"
    else s!"bytes in position {f.position}-{f.position + f.length - 1}"
  s!"'utf-8' codec can't decode {what}: {f.reason.text}"

/-- What a first byte announces: the bytes to follow, the bounds of the first of them, and the bits
it carries itself. -/
structure Utf8Lead where
  follow : Nat
  low : UInt8
  high : UInt8
  bits : Nat

/-- The reading of a first byte, if a character can begin with it. The bounds of the next byte shut
out overlong forms, surrogates and numbers beyond the last code point. -/
def Utf8Lead.ofByte? (b : UInt8) : Option Utf8Lead :=
  let n := b.toNat
  if n < 0x80 then some ⟨0, 0x80, 0xBF, n⟩
  else if n < 0xC2 then none
  else if n < 0xE0 then some ⟨1, 0x80, 0xBF, n - 0xC0⟩
  else if n = 0xE0 then some ⟨2, 0xA0, 0xBF, 0⟩
  else if n = 0xED then some ⟨2, 0x80, 0x9F, 0xD⟩
  else if n < 0xF0 then some ⟨2, 0x80, 0xBF, n - 0xE0⟩
  else if n = 0xF0 then some ⟨3, 0x90, 0xBF, 0⟩
  else if n = 0xF4 then some ⟨3, 0x80, 0x8F, 4⟩
  else if n < 0xF4 then some ⟨3, 0x80, 0xBF, n - 0xF0⟩
  else none

/-- A character under way: its first byte and position, how many bytes are read and how many are
missing, the bounds of the next and the bits so far. -/
structure Utf8Pending where
  byte : UInt8
  position : Nat
  read : Nat
  missing : Nat
  low : UInt8
  high : UInt8
  bits : Nat

/-- Reads the bytes from a position on, with a character under way or not. -/
def decodeFrom (position : Nat) : Option Utf8Pending → List UInt8 → Except Utf8Fault (List Char)
  | none, [] => .ok []
  | some p, [] => .error ⟨.unexpectedEnd, p.byte, p.position, p.read⟩
  | none, b :: rest =>
    match Utf8Lead.ofByte? b with
    | none => .error ⟨.invalidStart, b, position, 1⟩
    | some lead =>
      if lead.follow = 0 then
        (decodeFrom (position + 1) none rest).map (Char.ofNat lead.bits :: ·)
      else
        decodeFrom (position + 1)
          (some ⟨b, position, 1, lead.follow, lead.low, lead.high, lead.bits⟩) rest
  | some p, b :: rest =>
    if p.low ≤ b && b ≤ p.high then
      let bits := 64 * p.bits + (b.toNat - 0x80)
      if p.missing ≤ 1 then (decodeFrom (position + 1) none rest).map (Char.ofNat bits :: ·)
      else
        decodeFrom (position + 1)
          (some ⟨p.byte, p.position, p.read + 1, p.missing - 1, 0x80, 0xBF, bits⟩) rest
    else .error ⟨.invalidContinuation, p.byte, p.position, p.read⟩

/-- The text that bytes encode. -/
def decodeUtf8 (bytes : List UInt8) : Except Utf8Fault (List Char) := decodeFrom 0 none bytes

/-- Halves of a text that stand in a row: the first of them, its position and their number. -/
structure HalfRun where
  half : CodePoint
  position : Nat
  length : Nat
  deriving DecidableEq, Repr

/-- What is said of halves that cannot be encoded; one is shown, of several only the places. -/
def HalfRun.message (h : HalfRun) : String :=
  let what :=
    if h.length = 1 then s!"character {quoted ⟨[h.half]⟩} in position {h.position}"
    else s!"characters in position {h.position}-{h.position + h.length - 1}"
  s!"'utf-8' codec can't encode {what}: surrogates not allowed"

/-- Whether a code point is a half. -/
def isHalf (c : CodePoint) : Bool := !c.satisfies fun _ => true

/-- The first halves of a text, from a position on. -/
def halvesFrom (position : Nat) : List CodePoint → Option HalfRun
  | [] => none
  | c :: rest =>
    if isHalf c then some ⟨c, position, 1 + (rest.takeWhile isHalf).length⟩
    else halvesFrom (position + 1) rest

/-- The first halves of a text. Without any it can be encoded. -/
def halves? (s : Text) : Option HalfRun := halvesFrom 0 s.toList

example : decodeUtf8 [0x61, 0xC3, 0xA9, 0xF0, 0x9F, 0x98, 0x80] = .ok ['a', 'é', '😀'] := rfl

example : decodeUtf8 [0x61, 0xE2, 0x82] = .error ⟨.unexpectedEnd, 0xE2, 1, 2⟩ := rfl

example :
    halves? ⟨[.char 'x', .ofUnit 0xDC00, .ofUnit 0xD800]⟩ = some ⟨.ofUnit 0xDC00, 1, 2⟩ := by decide

end Roster.Text
