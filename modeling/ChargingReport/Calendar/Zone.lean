import ChargingReport.Calendar.Clock

/-!
# Time zones

A zone is a function from instants to offsets from UTC. `Zone.local?` gives the reading of a clock
in the zone.

Most zones in the table have either one offset or a yearly summer time. A `SummerTime` says on which
Sundays summer begins and ends and how many seconds the change lies from midnight UTC of that
Sunday. Where the end comes before the begin, summer spans the turn of the year.

`Zone.ofKey` looks a zone up by its key and says why a key names none.
-/

namespace ChargingReport

/-- A zone: the seconds that local clocks are ahead of UTC, at every instant. -/
structure Zone where
  offset : Instant → Int

namespace Zone

/-- What a clock in the zone shows, unless that lies outside the years 1 to 9999. -/
def local? (z : Zone) (i : Instant) : Option WallClock :=
  i.utc.shift? (z.offset i * microsPerSecond)

/-- The zone whose clocks are always ahead by the same number of seconds. -/
def fixed (seconds : Int) : Zone := ⟨fun _ => seconds⟩

/-- Coordinated universal time. -/
def utc : Zone := fixed 0

end Zone

/-! ## Sundays -/

/-- The day number of the first of a month, where the month is 1 to 12. -/
def firstOfMonth (year month : Nat) : Int :=
  (daysBeforeYear year + daysBeforeMonth year month : Nat)

/-- The first Sunday on or after a day number. -/
def sundayFrom (n : Int) : Int := n + (6 - n) % 7

/-- A Sunday of a month. -/
inductive SundayRule where
  /-- The first Sunday on or after a day of the month. -/
  | onOrAfter (month day : Nat)
  /-- The last Sunday of a month. -/
  | last (month : Nat)
deriving DecidableEq, Repr

/-- The day number of the Sunday in a year. -/
def SundayRule.number (rule : SundayRule) (year : Nat) : Int :=
  match rule with
  | .onOrAfter month day => sundayFrom (firstOfMonth year month + (day : Int) - 1)
  | .last month => sundayFrom (firstOfMonth year month + (daysInMonth year month : Int) - 7)

/-- A yearly change of the clocks: a Sunday, and the seconds from midnight UTC of that Sunday. -/
structure ClockChange where
  sunday : SundayRule
  seconds : Int

/-- The seconds since 0001-01-01T00:00:00 UTC at which the change happens. -/
def ClockChange.at (change : ClockChange) (year : Nat) : Int :=
  change.sunday.number year * 86400 + change.seconds

/-- The whole seconds since 0001-01-01T00:00:00 UTC. -/
def Instant.seconds (i : Instant) : Int := (i.ticks / microsPerSecond : Nat)

/-! ## Summer time -/

/-- A summer time that comes back every year. -/
structure SummerTime where
  standard : Int
  summer : Int
  begins : ClockChange
  ends : ClockChange

namespace SummerTime

/-- Whether the clocks are on summer time, by the begin and end of the year in UTC. -/
def inForce (rule : SummerTime) (i : Instant) : Bool :=
  let year := i.day.civil.year
  let now := i.seconds
  let begins := rule.begins.at year
  let ends := rule.ends.at year
  if begins < ends then begins ≤ now && now < ends
  else now < ends || begins ≤ now

/-- The offset of the rule at an instant. -/
def offset (rule : SummerTime) (i : Instant) : Int :=
  if rule.inForce i then rule.summer else rule.standard

/-- The zone that follows the rule in every year. -/
def zone (rule : SummerTime) : Zone := ⟨rule.offset⟩

end SummerTime

/-- Central European time, an hour ahead, with European summer time. -/
def berlinSummer : SummerTime :=
  { standard := 3600, summer := 7200
    begins := ⟨.last 3, 3600⟩, ends := ⟨.last 10, 3600⟩ }

/-- British time, with European summer time. -/
def londonSummer : SummerTime :=
  { standard := 0, summer := 3600
    begins := ⟨.last 3, 3600⟩, ends := ⟨.last 10, 3600⟩ }

/-- Eastern time: from the second Sunday of March to the first of November, at 2:00 local. -/
def newYorkSummer : SummerTime :=
  { standard := -18000, summer := -14400
    begins := ⟨.onOrAfter 3 8, 25200⟩, ends := ⟨.onOrAfter 11 1, 21600⟩ }

/-- Newfoundland time, on the same Sundays at 2:00 local. -/
def stJohnsSummer : SummerTime :=
  { standard := -12600, summer := -9000
    begins := ⟨.onOrAfter 3 8, 19800⟩, ends := ⟨.onOrAfter 11 1, 16200⟩ }

/-- Lord Howe time, half an hour of summer time from October to April, at 2:00 local. -/
def lordHoweSummer : SummerTime :=
  { standard := 37800, summer := 39600
    begins := ⟨.onOrAfter 10 1, -30600⟩, ends := ⟨.onOrAfter 4 1, -32400⟩ }

/-- New Zealand time, from the last Sunday of September to the first of April. -/
def aucklandSummer : SummerTime :=
  { standard := 43200, summer := 46800
    begins := ⟨.last 9, -36000⟩, ends := ⟨.onOrAfter 4 1, -36000⟩ }

/-- Chatham time, changed at the same instants as New Zealand time. -/
def chathamSummer : SummerTime :=
  { standard := 45900, summer := 49500
    begins := ⟨.last 9, -36000⟩, ends := ⟨.onOrAfter 4 1, -36000⟩ }

/-! ## Zones with a history -/

/-- The seconds since 0001-01-01T00:00:00 UTC of a date and a time of day. -/
def secondsAt (year month day hour : Nat) : Int :=
  (CivilDate.number ⟨year, month, day⟩ * 86400 + hour * 3600 : Nat)

/-- New York: local mean time until noon of 18 November 1883, then Eastern time. -/
def newYorkOffset (i : Instant) : Int :=
  if i.seconds < secondsAt 1883 11 18 17 then -17762 else newYorkSummer.offset i

/-- The Sundays of Brazilian summer time. It begins on the third Sunday of October, in 2018 on
the first of November, and ends on the third Sunday of February, or on the fourth where the third
falls into carnival. -/
def saoPauloSummer (year : Nat) : SummerTime :=
  { standard := -10800, summer := -7200
    begins := ⟨if year = 2018 then .onOrAfter 11 1 else .onOrAfter 10 15, 10800⟩
    ends := ⟨if year = 2012 ∨ year = 2015 then .onOrAfter 2 22 else .onOrAfter 2 15, 7200⟩ }

/-- Sao Paulo: summer time until February 2019, and none since. -/
def saoPauloOffset (i : Instant) : Int :=
  let year := i.day.civil.year
  if secondsAt 2019 2 17 2 ≤ i.seconds then -10800
  else (saoPauloSummer year).offset i

/-- Samoan summer time after the change of the date line: from the last Sunday of September 3:00
to the first Sunday of April 4:00. -/
def apiaSummer : SummerTime :=
  { standard := 46800, summer := 50400
    begins := ⟨.last 9, -36000⟩, ends := ⟨.onOrAfter 4 1, -36000⟩ }

/-- Apia: behind UTC until the end of 29 December 2011, then ahead of it; summer time until
April 2021. -/
def apiaOffset (i : Instant) : Int :=
  let now := i.seconds
  if now < secondsAt 2010 9 26 11 then -39600
  else if now < secondsAt 2011 4 2 14 then -36000
  else if now < secondsAt 2011 9 24 14 then -39600
  else if now < secondsAt 2011 12 30 10 then -36000
  else if now < secondsAt 2021 4 3 14 then apiaSummer.offset i
  else 46800

/-! ## The table -/

/-- The zones by their keys. -/
def zoneTable : List (String × Zone) :=
  [("UTC", Zone.utc),
    ("Etc/GMT+12", Zone.fixed (-43200)),
    ("Etc/GMT-14", Zone.fixed 50400),
    ("Pacific/Pago_Pago", Zone.fixed (-39600)),
    ("Pacific/Kiritimati", Zone.fixed 50400),
    ("America/Phoenix", Zone.fixed (-25200)),
    ("Asia/Tokyo", Zone.fixed 32400),
    ("Asia/Kolkata", Zone.fixed 19800),
    ("Asia/Kathmandu", Zone.fixed 20700),
    ("Pacific/Apia", ⟨apiaOffset⟩),
    ("America/Sao_Paulo", ⟨saoPauloOffset⟩),
    ("Europe/Berlin", berlinSummer.zone),
    ("Europe/London", londonSummer.zone),
    ("America/New_York", ⟨newYorkOffset⟩),
    ("America/St_Johns", stJohnsSummer.zone),
    ("Australia/Lord_Howe", lordHoweSummer.zone),
    ("Pacific/Auckland", aucklandSummer.zone),
    ("Pacific/Chatham", chathamSummer.zone)]

/-- The reasons why a key names no zone. -/
inductive ZoneError where
  /-- The key is well formed, and the table has no such zone. -/
  | unknown (key : String)
  /-- The key starts with a slash. -/
  | absolute (key : String)
  /-- The key is empty or has segments that a path does not need. -/
  | notNormalized (key : String)
  /-- The key leads out of the table. -/
  | outside (key : String)
deriving DecidableEq, Repr

namespace ZoneError

/-- The message of the error. -/
def message : ZoneError → String
  | .unknown key => "No time zone found with key " ++ key
  | .absolute key => "ZoneInfo keys may not be absolute paths, got: " ++ key
  | .notNormalized key => "ZoneInfo keys must be normalized relative paths, got: " ++ key
  | .outside key => "ZoneInfo keys must refer to subdirectories of TZPATH, got: " ++ key

end ZoneError

/-- Splits a text at every occurrence of a character. The parts are one more than the
occurrences. -/
def splitAtChar (sep : Char) : List Char → List (List Char)
  | [] => [[]]
  | c :: rest =>
    if c = sep then [] :: splitAtChar sep rest
    else match splitAtChar sep rest with
      | [] => [[c]]
      | part :: parts => (c :: part) :: parts

/-- Whether the segments form a relative path that needs no rewriting: none is empty or a single
dot, and double dots come only in front. -/
def isNormalPath (segments : List (List Char)) : Bool :=
  let inner := segments.dropWhile (· == ['.', '.'])
  segments == [['.']] || inner.all fun s => !s.isEmpty && s != ['.'] && s != ['.', '.']

namespace Zone

/-- The zone with a key. -/
def ofKey (key : String) : Except ZoneError Zone :=
  let cs := key.toList
  let segments := splitAtChar '/' cs
  if cs.head? = some '/' then .error (.absolute key)
  else if !isNormalPath segments then .error (.notNormalized key)
  else if segments.head? = some ['.', '.'] ∨ segments = [['.']] then .error (.outside key)
  else match zoneTable.lookup key with
    | some zone => .ok zone
    | none => .error (.unknown key)

end Zone

end ChargingReport
