import ChargingReport.Calendar.Zone
import ChargingReport.Settings.Basic

/-!
# Routes

A route answers requests whose path fits its template. A segment of the template in braces stands for
any text without slashes.

* `routeTable` lists the routes of the service, of which the first that fits answers.
* `Routing.ofRequest` says which route a request leads to.
* `routeLabel` is the name under which a request is counted. It is made of templates, so that the
  values in a path never show in it.
-/

namespace ChargingReport

/-- What a route answers. -/
inductive Endpoint where
  | document
  | documentPage
  | metrics
  | health
  | readiness
  | listing
  | export
  | details
  | activeKeys
deriving DecidableEq, Repr

/-- A part of a template. -/
inductive TemplatePart where
  | literal (text : List Char)
  | parameter
deriving DecidableEq, Repr

/-- A route: its template, the methods it takes, and what it answers. -/
structure Route where
  template : String
  methods : List String
  endpoint : Endpoint
deriving DecidableEq, Repr

/-! ## Templates -/

/-- The parts of a template between its slashes. -/
def templateParts (template : String) : List TemplatePart :=
  (splitAtChar '/' template.toList).map fun segment =>
    if segment.head? = some '\x7b' ∧ segment.getLast? = some '\x7d' then .parameter
    else .literal segment

/-- The values of the parameters, if segments fit parts. -/
def matchParts : List TemplatePart → List (List Char) → Option (List String)
  | [], [] => some []
  | .literal text :: parts, segment :: segments =>
    if segment = text then matchParts parts segments
    else if parts.isEmpty && segments.isEmpty && segment == text ++ ['\n'] then some []
    else none
  | .parameter :: parts, segment :: segments =>
    if segment.isEmpty then none
    else (matchParts parts segments).map (String.ofList segment :: ·)
  | _, _ => none

namespace Route

/-- The values of the parameters, if a path fits the template. A line end may follow a template that
ends in a literal. -/
def match? (r : Route) (path : List Char) : Option (List String) :=
  matchParts (templateParts r.template) (splitAtChar '/' path)

/-- Whether a path fits the template. -/
def fits (r : Route) (path : List Char) : Bool := (r.match? path).isSome

end Route

/-! ## The table -/

/-- A route that takes only `GET`. -/
def getRoute (template : String) (endpoint : Endpoint) : Route := ⟨template, ["GET"], endpoint⟩

/-- A route of the documentation, which is there if its path is not empty. It takes `HEAD` as well. -/
def pageRoute (path : Option String) (endpoint : Endpoint) : List Route :=
  match path with
  | some path => if path.isEmpty then [] else [⟨path, ["GET", "HEAD"], endpoint⟩]
  | none => []

/-- The path of the page that ends an authorisation in the documentation. -/
def authorisationPage : String := "/docs/oauth2-redirect"

/-- The routes of the documentation. The pages are there only with the document itself. -/
def documentRoutes (s : Settings) : List Route :=
  if s.openapiUrl.isEmpty then []
  else
    let page := pageRoute s.docsUrl .documentPage
    pageRoute (some s.openapiUrl) .document ++ page ++
      (if page.isEmpty then [] else pageRoute (some authorisationPage) .documentPage) ++
      pageRoute s.redocUrl .documentPage

/-- The routes of reports and probes. -/
def reportRoutes : List Route :=
  [getRoute "/api/healthz" .health,
    getRoute "/api/readyz" .readiness,
    getRoute "/api/transactions" .listing,
    getRoute "/api/transactions/export" .export,
    getRoute "/api/transactions/\x7btransaction_pk\x7d" .details,
    getRoute "/api/charge-boxes/\x7bcharge_box_id\x7d/active-transactions" .activeKeys]

/-- The routes of the service, in the order in which they are tried. -/
def routeTable (s : Settings) : List Route :=
  documentRoutes s ++ (if s.enableMetrics then [getRoute "/metrics" .metrics] else []) ++
    reportRoutes

/-! ## Routing -/

/-- Where a request leads. -/
inductive Routing where
  /-- A route answers, with the values of its parameters. -/
  | answered (route : Route) (values : List String)
  /-- A route fits the path, but does not take the method. -/
  | refused (route : Route)
  /-- A route fits the path without the slash at its end. -/
  | redirected (path : List Char)
  /-- No route fits. -/
  | unknown

/-- The path with the slash at its end taken away, or with one added. -/
def otherSlash (path : List Char) : List Char :=
  if path.getLast? = some '/' then (path.reverse.dropWhile (· == '/')).reverse
  else path ++ ['/']

/-- The route that a request leads to. -/
def Routing.ofRequest (routes : List Route) (method : String) (path : List Char) : Routing :=
  let fitting := routes.filter fun r => r.fits path
  match fitting.find? fun r => r.methods.contains method with
  | some route => .answered route ((route.match? path).getD [])
  | none =>
    match fitting.head? with
    | some route => .refused route
    | none =>
      if path != ['/'] && routes.any (fun r => r.fits (otherSlash path)) then
        .redirected (otherSlash path)
      else .unknown

/-! ## Labels -/

/-- The number of slashes in a text. -/
def slashCount (cs : List Char) : Nat := cs.count '/'

/-- The text in front of the last `n` slashes. A text has that many slashes. -/
def beforeSlashes (n : Nat) (cs : List Char) : List Char :=
  let parts := splitAtChar '/' cs
  List.intercalate ['/'] (parts.take (parts.length - n))

/-- The name under which a request is counted: the template of its route, behind the part of the path
that the template does not cover. Without a route it is the path. -/
def routeLabel (path : String) (template : Option String) : String :=
  match template with
  | none => path
  | some template =>
    let depth := slashCount template.toList
    let cs := path.toList
    let front := if depth < slashCount cs then beforeSlashes depth cs else []
    String.ofList (front ++ template.toList)

end ChargingReport
