import ChargingReport.Text.Utf8

/-!
# Percent signs

A percent sign and two hexadecimal digits stand for a byte. `percentDecode` puts the bytes in their
place and reads what comes of it as UTF-8. A percent sign without digits stands for itself.
-/

namespace ChargingReport

/-- The value of a hexadecimal digit, in upper or lower case. -/
def hexValue? (c : Char) : Option Nat :=
  if '0' ≤ c ∧ c ≤ '9' then some (c.toNat - '0'.toNat)
  else if 'a' ≤ c ∧ c ≤ 'f' then some (c.toNat - 'a'.toNat + 10)
  else if 'A' ≤ c ∧ c ≤ 'F' then some (c.toNat - 'A'.toNat + 10)
  else none

/-- The byte that two characters stand for. -/
def hexByte? (a b : Char) : Option Nat := do
  return (← hexValue? a) * 16 + (← hexValue? b)

/-- Splits a text into bytes and characters. Characters beyond ASCII stay characters. -/
def percentParts : List Char → List (Nat ⊕ Char)
  | '%' :: a :: b :: rest =>
    match hexByte? a b with
    | some byte => .inl byte :: percentParts rest
    | none => .inl '%'.toNat :: percentParts (a :: b :: rest)
  | c :: rest => (if c.toNat < 0x80 then .inl c.toNat else .inr c) :: percentParts rest
  | [] => []
termination_by cs => cs.length

/-- Reads every run of bytes as text. The second list holds the bytes of the current run, the last
one first. -/
def joinParts : List (Nat ⊕ Char) → List Nat → List Char
  | [], run => decodeUtf8 run.reverse
  | .inl byte :: rest, run => joinParts rest (byte :: run)
  | .inr c :: rest, run => decodeUtf8 run.reverse ++ c :: joinParts rest []

/-- A text in which bytes stand in place of their percent signs. -/
def percentDecode (cs : List Char) : List Char := joinParts (percentParts cs) []

end ChargingReport
