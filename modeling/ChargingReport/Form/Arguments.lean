import ChargingReport.Form.Check

/-!
# Forms from arguments

A form is also made from arguments that are already of the types of its fields. `FormArguments` has
one argument for every name of a form, and `FormArguments.form` checks them like the fields of an
object. A type, a period or a stamp is taken as it is. A text filter is looked at again, and a stamp
is still moved to UTC.

`FormArguments.unchecked` is the form with the same arguments where nothing is checked.
-/

namespace ChargingReport

/-- What is given for a field: input that is still to be read, or a value of the type of the field. -/
inductive Given (α : Type) where
  | input (v : Json)
  | value (a : α)

/-- Reads what is given for a field. An absent field has a default. -/
def readGiven {α : Type} (read : Json → Except Issue α) (default : α) (given : Option (Given α)) :
    Except Issue α :=
  match given with
  | none => .ok default
  | some (.input v) => read v
  | some (.value a) => .ok a

/-- The arguments of a form. The begin of the period can be given under its name in requests, and
under the name of its field. -/
structure FormArguments where
  transactionPk : Option Json := none
  chargeBoxId : Option Json := none
  idTag : Option Json := none
  type : Option (Given QueryType) := none
  period : Option (Given QueryPeriod) := none
  earliest : Option (Given (Option Stamp)) := none
  earliestByField : Option (Given (Option Stamp)) := none
  latest : Option (Given (Option Stamp)) := none

namespace FormArguments

/-- The fields of an object as arguments. -/
def ofJson (v : Json) : FormArguments where
  transactionPk := v.field? "transaction_pk"
  chargeBoxId := v.field? "charge_box_id"
  idTag := v.field? "ocpp_id_tag"
  type := (v.field? "type").map .input
  period := (v.field? "period_type").map .input
  earliest := (v.field? "from").map .input
  earliestByField := (v.field? "from_").map .input
  latest := (v.field? "to").map .input

/-- Values that were read before as arguments. The begin of the period has the name of its field. -/
def ofValues (v : FieldValues) : FormArguments where
  transactionPk := some (.ofInt? v.transactionPk)
  chargeBoxId := some (.ofText? v.chargeBoxId)
  idTag := some (.ofText? v.idTag)
  type := some (.value v.type)
  period := some (.value v.period)
  earliestByField := some (.value v.earliest)
  latest := some (.value v.latest)

/-- Reads the arguments. Of the two names of the begin, the one in requests wins. -/
def readings (a : FormArguments) : FieldReadings where
  transactionPk := readField readKey none a.transactionPk
  chargeBoxId := readField readFilter none a.chargeBoxId
  idTag := readField readFilter none a.idTag
  type := readGiven readType .all a.type
  period := readGiven readPeriod .all a.period
  earliest := readGiven readEnd none (a.earliest.or a.earliestByField)
  latest := readGiven readEnd none a.latest

/-- The form with these arguments. -/
def form (a : FormArguments) : Except FormError QueryForm := a.readings.form

end FormArguments

/-! ## Arguments without checks -/

/-- A choice that is not checked. Input stays what it is, also where it is the name of a choice. -/
def Choice.ofGiven {α : Type} (default : α) : Option (Given α) → Choice α
  | none => .known default
  | some (.value a) => .known a
  | some (.input v) => .unchecked v

/-- The end of a period that is not checked. It is compared by its reading, as a column keeps it. -/
def uncheckedEnd : Option (Given (Option Stamp)) → Option Instant
  | some (.value stamp) => stamp.map Stamp.stored
  | _ => none

/-- The form with these arguments, none of them checked. -/
def FormArguments.unchecked (a : FormArguments) : QueryForm where
  transactionPk := match a.transactionPk with
    | some (.int n) => some n
    | some (.bool b) => some (if b then 1 else 0)
    | _ => none
  chargeBoxId := match a.chargeBoxId with
    | some (.text s) => some s
    | _ => none
  idTag := match a.idTag with
    | some (.text s) => some s
    | _ => none
  type := .ofGiven .all a.type
  period := .ofGiven .all a.period
  earliest := uncheckedEnd (a.earliest.or a.earliestByField)
  latest := uncheckedEnd a.latest

/-- A form made from the fields of an object without checks. -/
def QueryForm.unchecked (v : Json) : QueryForm := (FormArguments.ofJson v).unchecked

/-! ## Fields and arguments -/

end ChargingReport
