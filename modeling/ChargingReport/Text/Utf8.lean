/-!
# Bytes as text

`decodeUtf8` reads bytes as UTF-8. Bytes that fit no character are replaced: the longest beginning of
a character that is cut off gives one replacement character, and so does a byte that begins none.
-/

namespace ChargingReport

/-- What stands for bytes that fit no character. -/
def replacementChar : Char := '\ufffd'

/-- What the first byte of a character says: its own part of the code point, how many bytes follow,
and the range of the first of them. -/
structure LeadByte where
  payload : Nat
  count : Nat
  low : Nat := 0x80
  high : Nat := 0xBF

/-- The meaning of a first byte, if it begins a character of several bytes. The narrower ranges keep
out overlong forms, surrogates and code points that do not exist. -/
def leadByte? (b : Nat) : Option LeadByte :=
  if 0xC2 ≤ b ∧ b ≤ 0xDF then some { payload := b - 0xC0, count := 1 }
  else if b = 0xE0 then some { payload := 0, count := 2, low := 0xA0 }
  else if b = 0xED then some { payload := 0xD, count := 2, high := 0x9F }
  else if 0xE1 ≤ b ∧ b ≤ 0xEF then some { payload := b - 0xE0, count := 2 }
  else if b = 0xF0 then some { payload := 0, count := 3, low := 0x90 }
  else if 0xF1 ≤ b ∧ b ≤ 0xF3 then some { payload := b - 0xF0, count := 3 }
  else if b = 0xF4 then some { payload := 4, count := 3, high := 0x8F }
  else none

/-- Reads the bytes that follow. The answer is the code point, if all of them are there, and how many
were used. -/
def followBytes : Nat → Nat → Nat → Nat → List Nat → Option Nat × Nat
  | 0, _, _, value, _ => (some value, 0)
  | _ + 1, _, _, _, [] => (none, 0)
  | count + 1, low, high, value, b :: rest =>
    if low ≤ b ∧ b ≤ high then
      let (result, used) := followBytes count 0x80 0xBF (value * 64 + (b - 0x80)) rest
      (result, used + 1)
    else (none, 0)

/-- Reads bytes as text. -/
def decodeUtf8 (bytes : List Nat) : List Char :=
  match bytes with
  | [] => []
  | b :: rest =>
    if b < 0x80 then Char.ofNat b :: decodeUtf8 rest
    else match leadByte? b with
      | none => replacementChar :: decodeUtf8 rest
      | some lead =>
        let (code, used) := followBytes lead.count lead.low lead.high lead.payload rest
        (code.map Char.ofNat).getD replacementChar :: decodeUtf8 (rest.drop used)
termination_by bytes.length

end ChargingReport
