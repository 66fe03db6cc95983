import ChargingReport.Form.Criteria
import ChargingReport.Text.Blank
import ChargingReport.Validation.Integer
import ChargingReport.Validation.Moment

/-!
# Checking query forms

`QueryForm.check` turns the fields of an object into a form, or says what is wrong with each of
them. The order of the issues is the order of the fields of a form.

A text filter that is blank counts as not given. The ends of a period are moved to UTC, and that can
leave the calendar: such a form is not rejected but fails. The period from one instant to another is
looked at only when every field is valid.
-/

namespace ChargingReport

/-- The most characters that a text filter may have. -/
def textLimit : Nat := 255

/-- What is wrong with a form. -/
inductive FormError where
  | invalid (issues : List FieldIssue)
  | calendar (cause : CalendarError)
deriving DecidableEq, Repr

/-! ## Fields -/

/-- A text filter. Blank text is no filter. -/
def readFilter : Json → Except Issue (Option String)
  | .null => .ok none
  | .text s =>
    if textLimit < s.length then .error (.textLength textLimit)
    else .ok (if isBlank s then none else some s)
  | _ => .error .textType

/-- A transaction key, or none. -/
def readKey : Json → Except Issue (Option Int)
  | .null => .ok none
  | v => (readInteger v).map some

/-- The end of a period, or none. -/
def readEnd : Json → Except Issue (Option Stamp)
  | .null => .ok none
  | v => (readMoment v).map some

/-- A type of query. -/
def readType (v : Json) : Except Issue QueryType :=
  match v with
  | .text s =>
    match QueryType.ofName? s with
    | some t => .ok t
    | none => .error (.choice QueryType.expected)
  | _ => .error (.choice QueryType.expected)

/-- A period. -/
def readPeriod (v : Json) : Except Issue QueryPeriod :=
  match v with
  | .text s =>
    match QueryPeriod.ofName? s with
    | some p => .ok p
    | none => .error (.choice QueryPeriod.expected)
  | _ => .error (.choice QueryPeriod.expected)

/-! ## The form -/

/-- A field that may be absent. An absent field has a default. -/
def readField {α : Type} (read : Json → Except Issue α) (default : α) (v : Option Json) :
    Except Issue α :=
  match v with
  | none => .ok default
  | some v => read v

/-- The issue of a field, if it has one. -/
def issueAt {α : Type} (place : String) (field : Except Issue α) : List FieldIssue :=
  match field with
  | .ok _ => []
  | .error cause => [⟨some place, cause⟩]

/-- The fields of a form, each read on its own. -/
structure FieldReadings where
  transactionPk : Except Issue (Option Int)
  chargeBoxId : Except Issue (Option String)
  idTag : Except Issue (Option String)
  type : Except Issue QueryType
  period : Except Issue QueryPeriod
  earliest : Except Issue (Option Stamp)
  latest : Except Issue (Option Stamp)

/-- The fields of a form, all of them valid. -/
structure FieldValues where
  transactionPk : Option Int
  chargeBoxId : Option String
  idTag : Option String
  type : QueryType
  period : QueryPeriod
  earliest : Option Stamp
  latest : Option Stamp

namespace FieldReadings

/-- Reads the fields of an object. The begin of the period has two names, of which `from` wins. -/
def ofJson (v : Json) : FieldReadings where
  transactionPk := readField readKey none (v.field? "transaction_pk")
  chargeBoxId := readField readFilter none (v.field? "charge_box_id")
  idTag := readField readFilter none (v.field? "ocpp_id_tag")
  type := readField readType .all (v.field? "type")
  period := readField readPeriod .all (v.field? "period_type")
  earliest := readField readEnd none ((v.field? "from").or (v.field? "from_"))
  latest := readField readEnd none (v.field? "to")

/-- What is wrong with the fields, in their order. -/
def issues (r : FieldReadings) : List FieldIssue :=
  issueAt "transaction_pk" r.transactionPk ++ issueAt "charge_box_id" r.chargeBoxId ++
    issueAt "ocpp_id_tag" r.idTag ++ issueAt "type" r.type ++
    issueAt "period_type" r.period ++ issueAt "from" r.earliest ++ issueAt "to" r.latest

/-- The values of the fields, if all of them are valid. -/
def values? (r : FieldReadings) : Except Issue FieldValues := do
  return {
    transactionPk := ← r.transactionPk
    chargeBoxId := ← r.chargeBoxId
    idTag := ← r.idTag
    type := ← r.type
    period := ← r.period
    earliest := ← r.earliest
    latest := ← r.latest }

end FieldReadings

/-- The instant of the end of a period. -/
def endInstant (s : Option Stamp) : Except CalendarError (Option Instant) :=
  match s with
  | none => .ok none
  | some s => s.instant.map some

/-- The instant of the end of a period, where reading it gave one. -/
def readingInstant (r : Except Issue (Option Stamp)) : Except CalendarError (Option Instant) :=
  match r with
  | .ok s => endInstant s
  | .error _ => .ok none

/-- What is wrong with the ends of a period from one instant to another. -/
def rangeIssue? (period : QueryPeriod) (earliest latest : Option Instant) : Option Issue :=
  match period, earliest, latest with
  | .fromTo, some first, some last =>
    if last.ticks < first.ticks then some .rangeReversed else none
  | .fromTo, _, _ => some .rangeIncomplete
  | _, _, _ => none

namespace FieldValues

/-- The form with these values, where the ends of the period are the given instants. -/
def form (v : FieldValues) (earliest latest : Option Instant) : Except FormError QueryForm :=
  match rangeIssue? v.period earliest latest with
  | some issue => .error (.invalid [⟨none, issue⟩])
  | none => .ok {
      transactionPk := v.transactionPk
      chargeBoxId := v.chargeBoxId
      idTag := v.idTag
      type := .known v.type
      period := .known v.period
      earliest := earliest
      latest := latest }

end FieldValues

namespace FieldReadings

/-- The form with these fields. -/
def form (r : FieldReadings) : Except FormError QueryForm :=
  match readingInstant r.earliest, readingInstant r.latest with
  | .error cause, _ => .error (.calendar cause)
  | _, .error cause => .error (.calendar cause)
  | .ok earliest, .ok latest =>
    match r.values? with
    | .error _ => .error (.invalid r.issues)
    | .ok values => values.form earliest latest

end FieldReadings

namespace QueryForm

/-- Checks the fields of an object. -/
def check (v : Json) : Except FormError QueryForm := (FieldReadings.ofJson v).form

end QueryForm

end ChargingReport
