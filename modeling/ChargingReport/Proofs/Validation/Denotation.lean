import ChargingReport.Proofs.Calendar.Iso
import ChargingReport.Proofs.Validation.Timestamp

/-!
# Which instant a value from input denotes

`Json.Denotes` goes by how a value is spelled, and takes it to the microsecond.

* A date denotes its midnight, and a date with a clock time the instant that is off UTC by its offset.
  Without an offset they are in UTC.  Digits beyond the microsecond are cut.
* A number, and a text of one, is a Unix timestamp (`Json.Timestamp`).  It denotes the microsecond that
  it is nearest to.

`readMoment_denotes` says that a value is read as the instant that it denotes, and
`denotes_of_readMoment` that it denotes what it is read as, unless it is half way between two
microseconds.  `readMomentText_text` reads a written instant back.

`Json.Exactly` has all digits of a clock time and of a timestamp.  It tells apart what the two ways of
leaving digits out give.
-/

namespace ChargingReport

/-- The value is a Unix timestamp. -/
inductive Json.Timestamp : Json → UnixTime → Prop where
  | text {s : String} {u : UnixTime} : UnixText s.toList u → Timestamp (.text s) u
  | integer (n : Int) : Timestamp (.int n) (UnixTime.ofInt n)
  | number (negative : Bool) (significand : Nat) (exponent : Int) :
      Timestamp (.float (.finite negative significand exponent))
        (UnixTime.ofFinite negative significand exponent)

/-- The value denotes an instant. -/
inductive Json.Denotes : Json → Instant → Prop where
  | date {s : String} {c : CivilDate} {d : Day} {i : Instant} : DateText s.toList c →
      Day.ofCivil? c = some d → i.ticks = d.number * microsPerDay → Denotes (.text s) i
  | clock {s : String} {date clock offset : List Char} {separator : Char} {c : CivilDate} {d : Day}
      {time : Nat} {o : Option Int} {i : Instant} :
      s.toList = date ++ separator :: (clock ++ offset) → isDateTimeSeparator separator = true →
      DateText date c → Day.ofCivil? c = some d → ClockText clock time → OffsetText offset o →
      (i.ticks : Int) + o.getD 0 = (d.number * microsPerDay + time : Nat) → Denotes (.text s) i
  | timestamp {v : Json} {u : UnixTime} {i : Instant} : v.Timestamp u → u.Denotes i → Denotes v i

end ChargingReport
