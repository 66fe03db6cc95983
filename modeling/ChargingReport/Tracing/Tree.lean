import ChargingReport.Journal.Basic

/-!
# Trees of spans

A `Tracer` knows which spans were opened, which of them have ended, and which one is current. A span
is opened inside the current one, which is its parent. An activated span is the current one while it
is open. A detached one never is.

`Tracer.querySpan` runs a body inside a span, and ends the span however the body ends. A `SpanNode` is
a tree of such bodies: each runs its children inside its span, and may then fail. A failure leaves
every span that is still open.
-/

namespace ChargingReport

/-! ## Attributes -/

/-- Whether a value is a single one of a kind that a span can hold. -/
def isScalar : Json → Bool
  | .bool _ => true
  | .int _ => true
  | .float _ => true
  | .text _ => true
  | _ => false

/-- Whether a value is null. -/
def isNull : Json → Bool
  | .null => true
  | _ => false

/-- Whether a span can hold a value: a single one, or a list of single ones of one kind. -/
def isAttributeValue : Json → Bool
  | .list items =>
    match items.filter fun v => !isNull v with
    | [] => true
    | first :: rest =>
      isScalar first && rest.all fun v => isScalar v && v.kindName == first.kindName
  | v => isScalar v

/-- The number of attributes that a span holds at most. -/
def attributeLimit : Nat := 128

/-- Sets an attribute of a span, behind those that it holds. An attribute without a name, or with a
value that a span cannot hold, is left out. A full span forgets the attribute that it has held
longest. -/
def setAttribute (held : List (String × Json)) (a : String × Json) : List (String × Json) :=
  if a.1.isEmpty || !isAttributeValue a.2 then held
  else if held.any fun b => b.1 == a.1 then (held.filter fun b => b.1 != a.1) ++ [a]
  else if held.length = attributeLimit then held.drop 1 ++ [a]
  else held ++ [a]

/-- The attributes that a span holds after some were set. Those that are null are not set. -/
def keptAttributes (attributes : List (String × Json)) : List (String × Json) :=
  (attributes.filter fun a => !isNull a.2).foldl setAttribute []

/-! ## Spans -/

/-- A span that was opened, with the span that is current once it is open. -/
structure OpenedSpan where
  name : String
  attributes : List (String × Json)
  parent : Option Nat
  current : Option Nat

/-- The end of a span, with the failure that left it, if any, and the span that is current
afterwards. -/
structure EndedSpan where
  number : Nat
  failure : Option Failure
  current : Option Nat

/-- The spans that were opened and those that have ended, in order, and the current one. A span is
named by its number in the order of opening. -/
structure Tracer where
  opened : List OpenedSpan := []
  ended : List EndedSpan := []
  current : Option Nat := none

/-- What a body leaves: the tracer, and the failure that ended it, if any. -/
structure SpanRun where
  tracer : Tracer
  failure : Option Failure

namespace Tracer

/-- Opens a span, and activates it or not. -/
def enter (t : Tracer) (name : String) (activate : Bool) (attributes : List (String × Json)) :
    Tracer :=
  let current := if activate then some t.opened.length else t.current
  { t with
    opened := t.opened ++ [⟨name, keptAttributes attributes, t.current, current⟩]
    current := current }

/-- Ends the span with a number. An activated span gives way to the one that was current before. -/
def leave (t : Tracer) (number : Nat) (activate : Bool) (before : Option Nat)
    (failure : Option Failure) : Tracer :=
  let current := if activate then before else t.current
  { t with ended := t.ended ++ [⟨number, failure, current⟩], current := current }

/-- Runs a body inside a span. -/
def querySpan (t : Tracer) (name : String) (activate : Bool) (attributes : List (String × Json))
    (body : Tracer → SpanRun) : SpanRun :=
  let run := body (t.enter name activate attributes)
  ⟨run.tracer.leave t.opened.length activate t.current run.failure, run.failure⟩

/-- The spans that have ended, with the names of their parents. -/
def spans (t : Tracer) : List Span :=
  t.ended.filterMap fun e => t.opened[e.number]?.map fun s =>
    let parent := s.parent.bind fun number => t.opened[number]?
    ⟨s.name, s.attributes, parent.map OpenedSpan.name, e.failure.map Failure.description⟩

end Tracer

/-! ## Trees -/

/-- A span to be opened, the spans inside it, and the failure after them, if any. -/
inductive SpanNode where
  | node (name : String) (activate : Bool) (attributes : List (String × Json))
      (children : List SpanNode) (failure : Option String)
deriving Inhabited

namespace SpanNode

mutual

/-- Runs a node. -/
def run (t : Tracer) : SpanNode → SpanRun
  | .node name activate attributes children failure =>
    t.querySpan name activate attributes fun t =>
      let inner := runAll t children
      ⟨inner.tracer, inner.failure.or (failure.map Failure.raised)⟩

/-- Runs nodes one after the other, until one fails. -/
def runAll (t : Tracer) : List SpanNode → SpanRun
  | [] => ⟨t, none⟩
  | head :: rest =>
    let first := run t head
    match first.failure with
    | some _ => first
    | none => runAll first.tracer rest

end

end SpanNode

end ChargingReport
