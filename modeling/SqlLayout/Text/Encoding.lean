import SqlLayout.Text.Quoted

/-!
# Bytes of texts

The text that the bytes of a file stand for, and what is wrong with bytes that stand for none.

## Implementation notes

A character of ASCII has one byte.  The first byte of any other tells how many bytes follow it and
in which range the next one lies, so that each character has one spelling and none stands for a half
of a pair.  A fault spans the bytes which could still have begun a character.
-/

namespace SqlLayout.Text

/-- Why bytes are no text. -/
inductive DecodeReason where
  /-- No character begins with a byte. -/
  | start
  /-- A byte cannot follow those before it. -/
  | continuation
  /-- The bytes end within a character. -/
  | unfinished
  deriving DecidableEq, Repr

/-- The wording of a reason. -/
def DecodeReason.wording : DecodeReason → String
  | .start => "invalid start byte"
  | .continuation => "invalid continuation byte"
  | .unfinished => "unexpected end of data"

/-- What is wrong with bytes that are no text. -/
structure DecodeFault where
  /-- The byte with which the fault begins. -/
  first : UInt8
  /-- The place of this byte. -/
  start : Nat
  /-- The number of bytes in the fault. -/
  count : Nat
  reason : DecodeReason
  deriving DecidableEq, Repr

/-- The wording of a fault. -/
def DecodeFault.message (fault : DecodeFault) : String :=
  let bytes :=
    if fault.count = 1 then
      "byte 0x" ++ String.ofList (hex 2 fault.first.toNat) ++ " in position " ++
        toString fault.start
    else
      "bytes in position " ++ toString fault.start ++ "-" ++
        toString (fault.start + fault.count - 1)
  "'utf-8' codec can't decode " ++ bytes ++ ": " ++ fault.reason.wording

/-- A character of which the first bytes were read. -/
structure Begun where
  /-- The place of the first byte. -/
  start : Nat
  first : UInt8
  /-- The code that the bytes give so far. -/
  code : Nat
  /-- The number of bytes that follow the next one. -/
  further : Nat
  /-- The least byte that can be the next one. -/
  low : UInt8 := 0x80
  /-- The greatest byte that can be the next one. -/
  high : UInt8 := 0xBF

/-- The character that begins with a byte; none has only this one. -/
def Begun.ofFirst? (start : Nat) (byte : UInt8) : Option Begun :=
  if byte < 0xC2 then none
  else if byte < 0xE0 then
    some { start, first := byte, code := byte.toNat % 0x20, further := 0 }
  else if byte < 0xF0 then
    some { start, first := byte, code := byte.toNat % 0x10, further := 1
           low := if byte = 0xE0 then 0xA0 else 0x80
           high := if byte = 0xED then 0x9F else 0xBF }
  else if byte < 0xF5 then
    some { start, first := byte, code := byte.toNat % 0x08, further := 2
           low := if byte = 0xF0 then 0x90 else 0x80
           high := if byte = 0xF4 then 0x8F else 0xBF }
  else none

/-- The fault of a character that ends before a place. -/
def Begun.fault (begun : Begun) (stop : Nat) (reason : DecodeReason) : DecodeFault :=
  { first := begun.first, start := begun.start, count := stop - begun.start, reason }

/-- The characters that bytes stand for from a place on, behind the bytes of a character that has
begun. -/
def decodeFrom (place : Nat) : Option Begun → List UInt8 → Except DecodeFault (List Char)
  | none, [] => .ok []
  | some begun, [] => .error (begun.fault place .unfinished)
  | none, byte :: rest =>
    if byte < 0x80 then
      (Char.ofNat byte.toNat :: ·) <$> decodeFrom (place + 1) none rest
    else match Begun.ofFirst? place byte with
      | some begun => decodeFrom (place + 1) (some begun) rest
      | none => .error { first := byte, start := place, count := 1, reason := .start }
  | some begun, byte :: rest =>
    if begun.low ≤ byte ∧ byte ≤ begun.high then
      let code := begun.code * 0x40 + byte.toNat % 0x40
      match begun.further with
      | 0 => (Char.ofNat code :: ·) <$> decodeFrom (place + 1) none rest
      | further + 1 =>
        let { start, first, .. } := begun
        decodeFrom (place + 1) (some { start, first, code, further }) rest
    else .error (begun.fault place .continuation)

/-- The text that bytes stand for. -/
def decode (bytes : List UInt8) : Except DecodeFault String :=
  String.ofList <$> decodeFrom 0 none bytes

end SqlLayout.Text
