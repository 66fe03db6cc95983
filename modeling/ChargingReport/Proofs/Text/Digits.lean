import ChargingReport.Number.Arithmetic
import ChargingReport.Text.Digits
import Mathlib.Data.Nat.Init

/-!
# Written numbers

* `natText_of_ge` and `padded_succ` split the last digit off a written number, and `length_padded` is
  the length of a padded one.
* `natOfChars_digits` reads a list of digits.  So a number is read back from its text, padded or not
  (`natOfChars_natText`, `natOfChars_padded`).
* `natOfChars_eq_some` goes back from a number to the digits of its text, and `natOfChars_append` puts
  two texts of digits together.
* `intOfText?` reads an integer with an optional minus sign, and `intOfText_intText` says that it
  reads what `intText` writes.
-/

namespace ChargingReport

/-! ## Last digits -/

theorem natText_of_lt {n : Nat} (h : n < 10) : natText n = [digitChar n] := by
  rw [natText, natDigits, if_pos h]
  rfl

theorem natText_of_ge {n : Nat} (h : 10 ≤ n) :
    natText n = natText (n / 10) ++ [digitChar (n % 10)] := by
  rw [natText, natDigits, if_neg (by omega), List.map_append]
  rfl

theorem padded_one {n : Nat} (h : n < 10) : padded 1 n = [digitChar n] := by
  simp [padded, natText_of_lt h]

/-- A padded number ends with its last digit. -/
theorem padded_succ {width : Nat} (n : Nat) (hw : 1 ≤ width) :
    padded (width + 1) n = padded width (n / 10) ++ [digitChar (n % 10)] := by
  unfold padded
  by_cases h : n < 10
  · rw [natText_of_lt h, Nat.div_eq_of_lt h, Nat.mod_eq_of_lt h, natText_of_lt (by decide)]
    have hzero : List.replicate width '0' = List.replicate (width - 1) '0' ++ [digitChar 0] := by
      rw [show [digitChar 0] = List.replicate 1 '0' from rfl, List.replicate_append_replicate]
      congr 1
      omega
    simp only [List.length_cons, List.length_nil, Nat.zero_add, Nat.add_sub_cancel, hzero]
  · rw [natText_of_ge (by omega)]
    simp only [List.length_append, List.length_cons, List.length_nil, Nat.zero_add,
      Nat.add_sub_add_right, List.append_assoc]

theorem powerOfTen_one : powerOfTen 1 = 10 := rfl

theorem powerOfTen_succ (k : Nat) : powerOfTen (k + 1) = powerOfTen k * 10 := rfl

/-- A number that fits is padded to the width. -/
theorem length_padded {width n : Nat} (hw : 1 ≤ width) (h : n < powerOfTen width) :
    (padded width n).length = width := by
  induction width, hw using Nat.le_induction generalizing n with
  | base =>
    rw [powerOfTen_one] at h
    rw [padded_one h]
    rfl
  | succ width hw ih =>
    rw [powerOfTen_succ] at h
    rw [padded_succ n hw, List.length_append, ih (by omega)]
    rfl

/-! ## Reading -/

theorem digitValue_digitChar {n : Nat} (h : n < 10) : digitValue? (digitChar n) = some n := by
  have hall : ∀ n < 10, digitValue? (digitChar n) = some n := by decide
  exact hall n h

/-- A list of digits is read as the number that it stands for. -/
theorem natOfChars_digits {digits : List Nat} (hne : digits ≠ []) (h : ∀ d ∈ digits, d < 10) :
    natOfChars? (digits.map digitChar) = some (digitsValue digits) := by
  have hvalues : (digits.map digitChar).mapM digitValue? = some digits := by
    clear hne
    induction digits with
    | nil => rfl
    | cons d digits ih =>
      obtain ⟨hd, hdigits⟩ := List.forall_mem_cons.1 h
      rw [List.map_cons, List.mapM_cons, digitValue_digitChar hd, ih hdigits]
      rfl
  cases digits with
  | nil => exact absurd rfl hne
  | cons d digits =>
    rw [List.map_cons] at hvalues ⊢
    rw [natOfChars?, hvalues]
    · rfl
    · exact List.cons_ne_nil _ _

theorem natDigits_ne_nil (n : Nat) : natDigits n ≠ [] := by
  rw [natDigits]
  split
  · exact List.cons_ne_nil _ _
  · exact List.append_ne_nil_of_right_ne_nil _ (List.cons_ne_nil _ _)

theorem natDigits_lt (n : Nat) : ∀ d ∈ natDigits n, d < 10 := by
  induction n using Nat.strong_induction_on with
  | _ n ih =>
    intro d hd
    rw [natDigits] at hd
    split at hd
    · rename_i hlt
      rw [List.mem_singleton.1 hd]
      exact hlt
    · rcases List.mem_append.1 hd with hfront | hlast
      · exact ih (n / 10) (by omega) d hfront
      · rw [List.mem_singleton.1 hlast]
        omega

/-- The digits of a number stand for the number. -/
theorem digitsValue_natDigits (n : Nat) : digitsValue (natDigits n) = n := by
  induction n using Nat.strong_induction_on with
  | _ n ih =>
    rw [natDigits]
    split
    · show 0 * 10 + n = n
      omega
    · rw [digitsValue, List.foldl_append]
      show digitsValue (natDigits (n / 10)) * 10 + n % 10 = n
      rw [ih (n / 10) (by omega)]
      omega

theorem natOfChars_natText (n : Nat) : natOfChars? (natText n) = some n := by
  rw [natText, natOfChars_digits (natDigits_ne_nil n) (natDigits_lt n), digitsValue_natDigits]

/-- Zeros in front do not change a number. -/
theorem digitsValue_zeros (k : Nat) (digits : List Nat) :
    digitsValue (List.replicate k 0 ++ digits) = digitsValue digits := by
  induction k with
  | zero => rfl
  | succ k ih =>
    rw [List.replicate_succ, List.cons_append]
    exact ih

theorem natOfChars_padded (width n : Nat) : natOfChars? (padded width n) = some n := by
  have hdigits : padded width n =
      (List.replicate (width - (natText n).length) 0 ++ natDigits n).map digitChar := by
    rw [List.map_append, List.map_replicate]
    rfl
  rw [hdigits, natOfChars_digits, digitsValue_zeros, digitsValue_natDigits]
  · exact List.append_ne_nil_of_right_ne_nil _ (natDigits_ne_nil n)
  · intro d hd
    rcases List.mem_append.1 hd with hzero | hdigit
    · rw [List.eq_of_mem_replicate hzero]
      decide
    · exact natDigits_lt n d hdigit

/-- All characters of a padded number are digits. -/
theorem isDigitChar_padded (width n : Nat) : ∀ c ∈ padded width n, isDigitChar c = true := by
  intro c hc
  rcases List.mem_append.1 hc with hzero | hdigit
  · rw [List.eq_of_mem_replicate hzero]
    rfl
  · obtain ⟨d, hd, rfl⟩ := List.mem_map.1 hdigit
    rw [isDigitChar, digitValue_digitChar (natDigits_lt n d hd)]
    rfl

/-! ## Digits of a text -/

/-- A text stands for a number if it is not empty and all its characters are digits. -/
theorem natOfChars_eq_some {cs : List Char} {n : Nat} :
    natOfChars? cs = some n ↔
      cs ≠ [] ∧ ∃ digits, cs.mapM digitValue? = some digits ∧ digitsValue digits = n := by
  cases cs with
  | nil => simp [natOfChars?]
  | cons c cs =>
    show ((c :: cs).mapM digitValue?).map digitsValue = some n ↔ _
    rw [Option.map_eq_some_iff]
    exact ⟨fun h => ⟨List.cons_ne_nil _ _, h⟩, fun h => h.2⟩

theorem mapM_digitValue_length {cs : List Char} {digits : List Nat}
    (h : cs.mapM digitValue? = some digits) : digits.length = cs.length := by
  induction cs generalizing digits with
  | nil =>
    cases h
    rfl
  | cons c cs ih =>
    rw [List.mapM_cons] at h
    obtain ⟨d, -, h⟩ := Option.bind_eq_some_iff.1 h
    obtain ⟨rest, hrest, h⟩ := Option.bind_eq_some_iff.1 h
    cases h
    rw [List.length_cons, List.length_cons, ih hrest]

theorem isDigitChar_of_mapM {cs : List Char} {digits : List Nat}
    (h : cs.mapM digitValue? = some digits) : ∀ c ∈ cs, isDigitChar c = true := by
  induction cs generalizing digits with
  | nil => exact nofun
  | cons c cs ih =>
    rw [List.mapM_cons] at h
    obtain ⟨d, hd, h⟩ := Option.bind_eq_some_iff.1 h
    obtain ⟨rest, hrest, -⟩ := Option.bind_eq_some_iff.1 h
    refine List.forall_mem_cons.2 ⟨?_, ih hrest⟩
    rw [isDigitChar, hd]
    rfl

theorem isDigitChar_of_natOfChars {cs : List Char} {n : Nat} (h : natOfChars? cs = some n) :
    ∀ c ∈ cs, isDigitChar c = true := by
  obtain ⟨-, digits, hdigits, -⟩ := natOfChars_eq_some.1 h
  exact isDigitChar_of_mapM hdigits

/-- Reading on with further digits. -/
theorem foldl_digits (digits : List Nat) (value : Nat) :
    digits.foldl (fun value digit => value * 10 + digit) value =
      value * powerOfTen digits.length + digitsValue digits := by
  induction digits generalizing value with
  | nil =>
    show value = value * 1 + 0
    omega
  | cons d digits ih =>
    have hvalue : digitsValue (d :: digits) = d * powerOfTen digits.length + digitsValue digits := by
      rw [← ih d, digitsValue, List.foldl_cons, Nat.zero_mul, Nat.zero_add]
    rw [List.foldl_cons, ih, hvalue, List.length_cons, powerOfTen_succ, Nat.add_mul, Nat.mul_assoc,
      Nat.mul_comm 10, Nat.add_assoc]

theorem digitsValue_cons (d : Nat) (digits : List Nat) :
    digitsValue (d :: digits) = d * powerOfTen digits.length + digitsValue digits := by
  rw [← foldl_digits digits d, digitsValue, List.foldl_cons, Nat.zero_mul, Nat.zero_add]

/-- A text of so many digits stands for a number below the power of ten. -/
theorem natOfChars_lt {cs : List Char} {n : Nat} (h : natOfChars? cs = some n) :
    n < powerOfTen cs.length := by
  obtain ⟨-, digits, hdigits, rfl⟩ := natOfChars_eq_some.1 h
  clear h
  induction cs generalizing digits with
  | nil =>
    cases hdigits
    decide
  | cons c cs ih =>
    rw [List.mapM_cons] at hdigits
    obtain ⟨d, hd, hdigits⟩ := Option.bind_eq_some_iff.1 hdigits
    obtain ⟨rest, hrest, hdigits⟩ := Option.bind_eq_some_iff.1 hdigits
    cases hdigits
    have hlt := ih rest hrest
    have hd9 : d ≤ 9 := by
      unfold digitValue? at hd
      split at hd
      · rename_i hrange
        cases hd
        have hnine : c.toNat ≤ '9'.toNat := hrange.2
        have hvalues : '9'.toNat = 57 ∧ '0'.toNat = 48 := ⟨rfl, rfl⟩
        omega
      · cases hd
    have hhead : d * powerOfTen rest.length ≤ 9 * powerOfTen rest.length := Nat.mul_le_mul_right _ hd9
    rw [digitsValue_cons, List.length_cons, powerOfTen_succ, ← mapM_digitValue_length hrest]
    rw [← mapM_digitValue_length hrest] at hlt
    omega

/-! ## Integers -/

/-- The integer that a text of digits stands for, with an optional minus sign in front. -/
def intOfText? (s : String) : Option Int :=
  match s.toList with
  | '-' :: digits => (natOfChars? digits).map fun n : Nat => -(n : Int)
  | digits => (natOfChars? digits).map Int.ofNat

/-- No number is written with a minus sign in front of its digits. -/
theorem head_natText (n : Nat) : ∀ c ∈ (natText n).head?, c ≠ '-' := by
  rintro c hc rfl
  have hdigit := isDigitChar_padded 0 n '-'
  rw [padded, Nat.zero_sub, List.replicate_zero, List.nil_append] at hdigit
  exact absurd (hdigit (List.mem_of_mem_head? hc)) (by decide)

/-- An integer is read back. -/
theorem intOfText_intText (n : Int) : intOfText? (intText n) = some n := by
  cases n with
  | ofNat k =>
    have hvalue := natOfChars_natText k
    have hhead := head_natText k
    rw [intOfText?, intText, String.toList_ofList]
    split
    · rename_i digits hdigits
      exact absurd rfl (hhead '-' (by rw [hdigits]; rfl))
    · rw [hvalue]
      rfl
  | negSucc k =>
    rw [intOfText?, intText, String.toList_ofList]
    show (natOfChars? (natText (k + 1))).map (fun n : Nat => -(n : Int)) = some (Int.negSucc k)
    rw [natOfChars_natText]
    rfl

end ChargingReport
