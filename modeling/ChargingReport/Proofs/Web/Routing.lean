import ChargingReport.Web.Service

/-!
# Where requests lead

* `splitAtChar_append_sep` and `splitAtChar_append` split a path, part by part.
* `Routing.ofRequest_report` says that the first report route that fits a path answers it, if no
  documentation route fits.  `Routing.ofRequest_listing` and `Routing.ofRequest_details` are the path
  of the listing, and the paths below it that are not the export.
* `Service.answer_eq_of_route` is the exchange with a route, and `Service.answer_of_route` its answer.
-/

namespace ChargingReport

/-! ## Paths -/

theorem splitAtChar_ne_nil (sep : Char) (cs : List Char) : splitAtChar sep cs ≠ [] := by
  cases cs with
  | nil => exact List.cons_ne_nil _ _
  | cons c cs =>
    unfold splitAtChar
    split
    · exact List.cons_ne_nil _ _
    · split
      · exact List.cons_ne_nil _ _
      · exact List.cons_ne_nil _ _

/-- A separator in front ends an empty part. -/
theorem splitAtChar_sep (sep : Char) (cs : List Char) :
    splitAtChar sep (sep :: cs) = [] :: splitAtChar sep cs := by
  rw [splitAtChar, if_pos rfl]

/-- A character that is no separator belongs to the first part. -/
theorem splitAtChar_cons {sep c : Char} {cs part : List Char} {parts : List (List Char)}
    (hc : c ≠ sep) (h : splitAtChar sep cs = part :: parts) :
    splitAtChar sep (c :: cs) = (c :: part) :: parts := by
  rw [splitAtChar, if_neg hc, h]

/-- A separator splits a text. -/
theorem splitAtChar_append_sep (sep : Char) (front rest : List Char) :
    splitAtChar sep (front ++ sep :: rest) = splitAtChar sep front ++ splitAtChar sep rest := by
  induction front with
  | nil => exact splitAtChar_sep sep rest
  | cons c front ih =>
    by_cases hc : c = sep
    · rw [hc, List.cons_append, splitAtChar_sep, splitAtChar_sep, ih, List.cons_append]
    · obtain ⟨part, parts, hparts⟩ := List.exists_cons_of_ne_nil (splitAtChar_ne_nil sep front)
      rw [hparts, List.cons_append] at ih
      rw [List.cons_append, splitAtChar_cons hc ih, splitAtChar_cons hc hparts, List.cons_append]

/-- A text without the separator is one part. -/
theorem splitAtChar_single {sep : Char} {cs : List Char} (h : sep ∉ cs) :
    splitAtChar sep cs = [cs] := by
  induction cs with
  | nil => rfl
  | cons c cs ih =>
    rw [List.mem_cons, not_or] at h
    exact splitAtChar_cons (Ne.symm h.1) (ih h.2)

/-- What stands in front of a separator is the first part. -/
theorem splitAtChar_append {sep : Char} {front : List Char} (h : sep ∉ front) (rest : List Char) :
    splitAtChar sep (front ++ sep :: rest) = front :: splitAtChar sep rest := by
  rw [splitAtChar_append_sep, splitAtChar_single h, List.singleton_append]

/-- The path of the listing. -/
def listingPath : List Char := "/api/transactions".toList

/-- The path of what is below the listing. -/
def segmentPath (segment : List Char) : List Char := listingPath ++ '/' :: segment

/-- A path below the listing has four parts. -/
theorem splitAtChar_segmentPath {segment : List Char} (h : '/' ∉ segment) :
    splitAtChar '/' (segmentPath segment) =
      [[], "api".toList, "transactions".toList, segment] := by
  have hpath : segmentPath segment =
      [] ++ '/' :: ("api".toList ++ '/' :: ("transactions".toList ++ '/' :: segment)) := rfl
  rw [hpath, splitAtChar_append (by decide), splitAtChar_append (by decide),
    splitAtChar_append (by decide), splitAtChar_single h]

/-! ## Routes -/

/-- The route of the export. -/
def exportRoute : Route := getRoute "/api/transactions/export" .export

/-- The route of the details. -/
def detailsRoute : Route := getRoute "/api/transactions/\x7btransaction_pk\x7d" .details

namespace Routing

variable {settings : Settings} {path : List Char} {route : Route}

/-- The first report route that fits a path answers it, if no route before them fits. -/
theorem ofRequest_report (hdocument : ∀ route ∈ documentRoutes settings, route.fits path = false)
    (hmetrics : (getRoute "/metrics" .metrics).fits path = false)
    (hreport : (reportRoutes.filter fun r => r.fits path).find?
      (fun r => r.methods.contains "GET") = some route) :
    ofRequest (routeTable settings) "GET" path = .answered route ((route.match? path).getD []) := by
  have hnone : (documentRoutes settings).filter (fun r => r.fits path) = [] := by
    refine List.filter_eq_nil_iff.2 fun route hroute => ?_
    rw [hdocument route hroute]
    exact Bool.false_ne_true
  have hskipped : (if settings.enableMetrics then [getRoute "/metrics" .metrics] else []).filter
      (fun r => r.fits path) = [] := by
    cases settings.enableMetrics with
    | true => rw [if_pos rfl, List.filter_cons_of_neg (by simp [hmetrics]), List.filter_nil]
    | false => rfl
  rw [ofRequest, routeTable, List.filter_append, List.filter_append, hnone, hskipped,
    List.nil_append, List.nil_append]
  simp only [hreport]

theorem ofRequest_listing
    (hdocument : ∀ route ∈ documentRoutes settings, route.fits listingPath = false) :
    ofRequest (routeTable settings) "GET" listingPath =
      .answered (getRoute "/api/transactions" .listing) [] :=
  ofRequest_report hdocument (by decide) (by decide)

/-- A path below the listing leads to the details, unless it is the path of the export. -/
theorem ofRequest_details {segment : List Char} (hne : segment ≠ []) (hslash : '/' ∉ segment)
    (hexport : exportRoute.fits (segmentPath segment) = false)
    (hdocument : ∀ route ∈ documentRoutes settings, route.fits (segmentPath segment) = false) :
    ofRequest (routeTable settings) "GET" (segmentPath segment) =
      .answered detailsRoute [String.ofList segment] := by
  have hsplit := splitAtChar_segmentPath hslash
  have hmatch : detailsRoute.match? (segmentPath segment) = some [String.ofList segment] := by
    have hparts : templateParts detailsRoute.template =
        [.literal [], .literal "api".toList, .literal "transactions".toList, .parameter] := by
      decide
    rw [Route.match?, hparts, hsplit]
    simp [matchParts, hne]
  -- all other report routes differ in a literal, or have another number of parts
  have hother : ∀ (route : Route) (parts : List TemplatePart),
      templateParts route.template = parts →
      matchParts parts [[], "api".toList, "transactions".toList, segment] = none →
      route.fits (segmentPath segment) = false := by
    intro route parts hparts hnone
    rw [Route.fits, Route.match?, hparts, hsplit, hnone]
    rfl
  have hhealth : (getRoute "/api/healthz" .health).fits (segmentPath segment) = false :=
    hother _ [.literal [], .literal "api".toList, .literal "healthz".toList] (by decide) rfl
  have hready : (getRoute "/api/readyz" .readiness).fits (segmentPath segment) = false :=
    hother _ [.literal [], .literal "api".toList, .literal "readyz".toList] (by decide) rfl
  have hlisting : (getRoute "/api/transactions" .listing).fits (segmentPath segment) = false :=
    hother _ [.literal [], .literal "api".toList, .literal "transactions".toList] (by decide) rfl
  have hkeys : (getRoute "/api/charge-boxes/\x7bcharge_box_id\x7d/active-transactions"
      .activeKeys).fits (segmentPath segment) = false :=
    hother _ [.literal [], .literal "api".toList, .literal "charge-boxes".toList, .parameter,
      .literal "active-transactions".toList] (by decide) rfl
  have hmetrics : (getRoute "/metrics" .metrics).fits (segmentPath segment) = false :=
    hother _ [.literal [], .literal "metrics".toList] (by decide) rfl
  have hdetails : detailsRoute.fits (segmentPath segment) = true := by
    rw [Route.fits, hmatch]
    rfl
  have hreport : reportRoutes.filter (fun r => r.fits (segmentPath segment)) = [detailsRoute] := by
    rw [exportRoute] at hexport
    rw [detailsRoute] at hdetails
    simp only [reportRoutes, List.filter_cons, List.filter_nil, hhealth, hready, hlisting, hkeys,
      hexport, hdetails, if_true, Bool.false_eq_true, if_false, detailsRoute]
  rw [ofRequest_report hdocument hmetrics (by rw [hreport]; rfl), hmatch]
  rfl

end Routing

/-- A request that leads to a route is one exchange, and is counted under the template. -/
theorem Service.answer_eq_of_route {v : Service} {r : Request} (hmethod : r.method = "GET")
    {route : Route} {values : List String}
    (hroute : Routing.ofRequest (routeTable v.settings) "GET" r.target.path =
      .answered route values) (j : Journal) :
    v.answer r j = ⟨(v.routeAnswer r route values j).answer,
      v.count r (some route.template) (v.routeAnswer r route values j).answer.status
        (v.routeAnswer r route values j).journal⟩ := by
  have hget : ¬ r.method = "HEAD" := by
    rw [hmethod]
    decide
  rw [answer, redirectLimit, follow, hmethod, hroute]
  simp only [bodyFor, if_neg hget]

/-- A request is answered by the route that it leads to. -/
theorem Service.answer_of_route {v : Service} {r : Request} (hmethod : r.method = "GET")
    {route : Route} {values : List String}
    (hroute : Routing.ofRequest (routeTable v.settings) "GET" r.target.path =
      .answered route values) (j : Journal) :
    (v.answer r j).answer = (v.routeAnswer r route values j).answer := by
  rw [answer_eq_of_route hmethod hroute]

end ChargingReport
