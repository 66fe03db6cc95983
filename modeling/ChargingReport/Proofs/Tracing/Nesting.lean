import ChargingReport.Tracing.Tree
import Mathlib.Data.List.DropRight
import Mathlib.Data.List.Infix
import Mathlib.Data.List.Nodup

/-!
# Spans nest and close

* Attributes.  `ValidAttributes` says what a span can be given.  `keptAttributes_eq` is the induction
  over the attributes: a span holds the last of them that are not null.
* Calls.  A `Call` is a node in its place: its number, and the calls around it.  `SpanNode.entering`
  lists the calls of a tree in the order in which they are entered, and `SpanNode.leaving` in the order
  in which they are left.  Neither knows of a tracer.  `innermost` finds the activated call that is
  closest.
* Runs.  `Completed` and `Stopped` are the two ways in which a run goes through calls.  A call is put
  around calls by `Completed.close`, `Completed.raise` and `Stopped.close`, and the lemmas called
  `append` put calls side by side.  `SpanNode.run_spec` is the induction over a tree, and its invariant
  is that the current span is the innermost activated one around.
* Places.  Calls are numbered as they are entered (`SpanNode.entering_numbers`), and the calls around a
  call are entered before it (`SpanNode.entering_inside`).
* `spans_nest` is the result.  `attributes_forgotten` shows a span that is given too much.
-/

namespace ChargingReport

/-! ## Attributes -/

/-- The names are given and differ, and every value is null or one that a span can hold. -/
def ValidAttributes (attributes : List (String × Json)) : Prop :=
  (attributes.map Prod.fst).Nodup ∧ ∀ a ∈ attributes, a.1.isEmpty = false ∧
    (isNull a.2 = true ∨ isAttributeValue a.2 = true)

/-- A new attribute stands behind the last ones that there is room for. -/
theorem setAttribute_new {held : List (String × Json)} {a : String × Json}
    (hname : a.1.isEmpty = false) (hvalue : isAttributeValue a.2 = true)
    (hnew : ∀ b ∈ held, b.1 ≠ a.1) :
    setAttribute (held.rtake attributeLimit) a = (held ++ [a]).rtake attributeLimit := by
  have hany : ((held.rtake attributeLimit).any fun b => b.1 == a.1) = false := by
    rw [List.any_eq_false]
    intro b hb hsame
    rw [List.rtake] at hb
    exact hnew b (List.mem_of_mem_drop hb) (beq_iff_eq.1 hsame)
  rw [setAttribute, hname, hvalue, Bool.not_true, Bool.or_false, if_neg Bool.false_ne_true, hany,
    if_neg Bool.false_ne_true]
  unfold List.rtake attributeLimit
  rw [List.length_append, List.length_singleton]
  split
  · rename_i hfull
    rw [List.length_drop] at hfull
    have hcount : held.length - 128 + 1 = held.length + 1 - 128 := by omega
    rw [List.drop_drop, hcount, List.drop_append_of_le_length (by omega)]
  · rename_i hroom
    rw [List.length_drop] at hroom
    have hall : held.length - 128 = 0 := by omega
    have hall' : held.length + 1 - 128 = 0 := by omega
    rw [hall, hall', List.drop_zero, List.drop_zero]

/-- A span holds the last of the attributes that are not null. -/
theorem keptAttributes_eq {attributes : List (String × Json)} (h : ValidAttributes attributes) :
    keptAttributes attributes = (attributes.filter fun a => !isNull a.2).rtake attributeLimit := by
  have hnodup : ((attributes.filter fun a => !isNull a.2).map Prod.fst).Nodup :=
    (List.filter_sublist.map _).nodup h.1
  have hvalid : ∀ a ∈ attributes.filter fun a => !isNull a.2,
      a.1.isEmpty = false ∧ isAttributeValue a.2 = true := by
    intro a ha
    obtain ⟨hmem, hset⟩ := List.mem_filter.1 ha
    obtain ⟨hname, hnull | hvalue⟩ := h.2 a hmem
    · rw [hnull] at hset
      exact Bool.noConfusion hset
    · exact ⟨hname, hvalue⟩
  unfold keptAttributes
  generalize attributes.filter (fun a => !isNull a.2) = set at hnodup hvalid
  -- attributes are set from the first to the last, so the induction is on the end of the list
  induction set using List.reverseRecOn with
  | nil => rfl
  | append_singleton held a ih =>
    rw [List.map_append, List.map_singleton, List.nodup_append] at hnodup
    obtain ⟨hname, hvalue⟩ := hvalid a (List.mem_append_right _ (List.mem_singleton_self a))
    rw [List.foldl_append, ih hnodup.1 fun b hb => hvalid b (List.mem_append_left _ hb)]
    exact setAttribute_new hname hvalue fun b hb =>
      hnodup.2.2 _ (List.mem_map_of_mem hb) _ (List.mem_singleton_self _)

/-! ## Calls -/

namespace SpanNode

/-- Whether the span of the node becomes the current one. -/
def isActivated : SpanNode → Bool
  | .node _ activate _ _ _ => activate

/-- What the span of the node is given as attributes. -/
def attributes : SpanNode → List (String × Json)
  | .node _ _ attributes _ _ => attributes

/-- What the node raises after its children, if anything. -/
def raises : SpanNode → Option String
  | .node _ _ _ _ failure => failure

mutual

/-- The number of nodes of the tree. -/
def size : SpanNode → Nat
  | .node _ _ _ children _ => sizeAll children + 1

/-- The number of nodes of some trees. -/
def sizeAll : List SpanNode → Nat
  | [] => 0
  | head :: rest => head.size + sizeAll rest

end

end SpanNode

/-- A node in its place: its number, and the calls around it from the inside out. -/
structure Call where
  number : Nat
  node : SpanNode
  around : List Call

/-- The innermost activated call. -/
def innermost (calls : List Call) : Option Nat :=
  (calls.find? fun c => c.node.isActivated).map Call.number

namespace Call

/-- The innermost activated call around the call. -/
def parent (c : Call) : Option Nat := innermost c.around

/-- The innermost activated call around its body. -/
def current (c : Call) : Option Nat := innermost (c :: c.around)

/-- The span that the call opens. -/
def opened (c : Call) : OpenedSpan :=
  match c.node with
  | .node name _ attributes _ _ => ⟨name, keptAttributes attributes, c.parent, c.current⟩

/-- The end of the span of the call. -/
def ended (failure : Option Failure) (c : Call) : EndedSpan := ⟨c.number, failure, c.parent⟩

end Call

namespace SpanNode

mutual

/-- The calls of a tree in the order in which they are entered. -/
def entering (number : Nat) (around : List Call) : SpanNode → List Call
  | .node name activate attributes children failure =>
    let c : Call := ⟨number, .node name activate attributes children failure, around⟩
    c :: enteringAll (number + 1) (c :: around) children

/-- The calls of some trees in the order in which they are entered. -/
def enteringAll (number : Nat) (around : List Call) : List SpanNode → List Call
  | [] => []
  | head :: rest => entering number around head ++ enteringAll (number + head.size) around rest

end

mutual

/-- The calls of a tree in the order in which they are left. -/
def leaving (number : Nat) (around : List Call) : SpanNode → List Call
  | .node name activate attributes children failure =>
    let c : Call := ⟨number, .node name activate attributes children failure, around⟩
    leavingAll (number + 1) (c :: around) children ++ [c]

/-- The calls of some trees in the order in which they are left. -/
def leavingAll (number : Nat) (around : List Call) : List SpanNode → List Call
  | [] => []
  | head :: rest => leaving number around head ++ leavingAll (number + head.size) around rest

end

mutual

theorem length_entering (number : Nat) (around : List Call) (node : SpanNode) :
    (entering number around node).length = node.size := by
  match node with
  | .node name activate attributes children failure =>
    rw [entering, List.length_cons, length_enteringAll, size]

theorem length_enteringAll (number : Nat) (around : List Call) (nodes : List SpanNode) :
    (enteringAll number around nodes).length = sizeAll nodes := by
  match nodes with
  | [] => rfl
  | head :: rest =>
    rw [enteringAll, List.length_append, length_entering, length_enteringAll, sizeAll]

end

mutual

/-- The calls that are left are the calls that are entered. -/
theorem leaving_perm (number : Nat) (around : List Call) (node : SpanNode) :
    (leaving number around node).Perm (entering number around node) := by
  match node with
  | .node name activate attributes children failure =>
    rw [leaving, entering]
    exact List.perm_append_comm.trans ((leavingAll_perm _ _ children).cons _)

theorem leavingAll_perm (number : Nat) (around : List Call) (nodes : List SpanNode) :
    (leavingAll number around nodes).Perm (enteringAll number around nodes) := by
  match nodes with
  | [] => exact .nil
  | head :: rest =>
    rw [leavingAll, enteringAll]
    exact (leaving_perm _ _ head).append (leavingAll_perm _ _ rest)

end

end SpanNode

/-! ## Runs -/

/-- No call raises.  All of them are entered in order and left in order, and the current span is what
it was. -/
def Completed (t : Tracer) (calls order : List Call) (r : SpanRun) : Prop :=
  (∀ c ∈ order, c.node.raises = none) ∧
    r = ⟨⟨t.opened ++ calls.map Call.opened, t.ended ++ order.map (Call.ended none), t.current⟩, none⟩

/-- The call `p` is the first one that raises.  The calls up to its last descendant are entered.  The
calls that are left before it end as if nothing had happened, and `p` and the calls around it fail
from the inside out. -/
structure Stopped (t : Tracer) (around calls order : List Call) (r : SpanRun)
    (before : List Call) (p : Call) (inner ran : List Call) (text : String) : Prop where
  quiet : ∀ c ∈ before, c.node.raises = none
  raises : p.node.raises = some text
  first : (before ++ [p]) <+: order
  around_eq : p.around = inner ++ around
  entered : ran <+: calls
  length_eq : t.opened.length + ran.length = p.number + p.node.size
  perm : (before ++ p :: inner).Perm ran
  sublist : (before ++ p :: inner).Sublist order
  run_eq : r = ⟨⟨t.opened ++ ran.map Call.opened,
    t.ended ++ (before.map (Call.ended none) ++
      (p :: inner).map (Call.ended (some (.raised text)))), t.current⟩, some (.raised text)⟩

/-! ### One call -/

/-- What a tracer knows once a call was entered. -/
structure Entered (t t' : Tracer) (c : Call) : Prop where
  number : c.number = t.opened.length
  parent : c.parent = t.current
  current : t'.current = c.current
  opened : t'.opened = t.opened ++ [c.opened]
  ended : t'.ended = t.ended

/-- Inside a node, the innermost activated call is the current one. -/
theorem entered_node {t : Tracer} {around : List Call} (hcurrent : t.current = innermost around)
    (name : String) (activate : Bool) (attributes : List (String × Json))
    (children : List SpanNode) (failure : Option String) :
    Entered t (t.enter name activate attributes)
      ⟨t.opened.length, .node name activate attributes children failure, around⟩ := by
  have hinside : (t.enter name activate attributes).current =
      Call.current ⟨t.opened.length, .node name activate attributes children failure, around⟩ := by
    cases activate with
    | true => rfl
    | false => exact hcurrent
  refine ⟨rfl, hcurrent.symm, hinside, ?_, rfl⟩
  rw [Call.opened, Call.parent, ← hcurrent, ← hinside]
  rfl

/-- A node runs its children inside its span, and then ends the span. -/
theorem run_node {t : Tracer} {name : String} {activate : Bool} {attributes : List (String × Json)}
    {children : List SpanNode} {failure : Option String} {c : Call} {raised : Option Failure}
    {r : SpanRun} (hc : Entered t (t.enter name activate attributes) c)
    (hr : SpanNode.runAll (t.enter name activate attributes) children = r)
    (hcurrent : r.tracer.current = (t.enter name activate attributes).current)
    (hraised : r.failure.or (failure.map .raised) = raised) :
    SpanNode.run t (.node name activate attributes children failure) =
      ⟨⟨r.tracer.opened, r.tracer.ended ++ [c.ended raised], t.current⟩, raised⟩ := by
  have hbefore : (if activate then t.current else r.tracer.current) = t.current := by
    cases activate with
    | true => rfl
    | false => exact hcurrent
  rw [SpanNode.run, Tracer.querySpan, hr]
  simp only [Tracer.leave, hbefore, hraised, Call.ended, hc.number, hc.parent]

section Steps

variable {t t' : Tracer} {around calls order calls' order' before inner ran : List Call}
  {r r' : SpanRun} {c p : Call} {text : String}

/-- A call that does not raise closes behind those inside it. -/
theorem Completed.close (h : Completed t' calls order r) (hc : Entered t t' c)
    (hraises : c.node.raises = none) :
    Completed t (c :: calls) (order ++ [c])
      ⟨⟨r.tracer.opened, r.tracer.ended ++ [c.ended none], t.current⟩, none⟩ := by
  obtain ⟨hquiet, rfl⟩ := h
  refine ⟨List.forall_mem_append.2 ⟨hquiet, fun d hd => List.mem_singleton.1 hd ▸ hraises⟩, ?_⟩
  simp only [hc.opened, hc.ended, List.map_append, List.map_cons, List.map_nil, List.append_assoc,
    List.singleton_append]

/-- A call that raises after those inside it is the first one that does. -/
theorem Completed.raise (h : Completed t' calls order r) (hc : Entered t t' c)
    (hraises : c.node.raises = some text) (haround : c.around = around) (hperm : order.Perm calls)
    (hsize : calls.length + 1 = c.node.size) :
    Stopped t around (c :: calls) (order ++ [c])
      ⟨⟨r.tracer.opened, r.tracer.ended ++ [c.ended (some (.raised text))], t.current⟩,
        some (.raised text)⟩
      order c [] (c :: calls) text := by
  obtain ⟨hquiet, rfl⟩ := h
  refine ⟨hquiet, hraises, List.prefix_rfl, haround, List.prefix_rfl, ?_, ?_, List.Sublist.refl _, ?_⟩
  · rw [List.length_cons, hc.number, hsize]
  · exact List.perm_append_comm.trans (hperm.cons c)
  · simp only [hc.opened, hc.ended, List.map_cons, List.map_nil, List.append_assoc,
      List.singleton_append]

/-- A failure inside a call goes through the call. -/
theorem Stopped.close (h : Stopped t' (c :: around) calls order r before p inner ran text)
    (hc : Entered t t' c) :
    Stopped t around (c :: calls) (order ++ [c])
      ⟨⟨r.tracer.opened, r.tracer.ended ++ [c.ended (some (.raised text))], t.current⟩,
        some (.raised text)⟩
      before p (inner ++ [c]) (c :: ran) text := by
  refine ⟨h.quiet, h.raises, h.first.trans (List.prefix_append _ _), ?_,
    List.cons_prefix_cons.2 ⟨rfl, h.entered⟩, ?_, ?_, ?_, ?_⟩
  · rw [h.around_eq, List.append_assoc, List.singleton_append]
  · have hcount := h.length_eq
    rw [hc.opened, List.length_append, List.length_singleton] at hcount
    rw [List.length_cons]
    omega
  · rw [← List.cons_append, ← List.append_assoc]
    exact List.perm_append_comm.trans (h.perm.cons c)
  · rw [← List.cons_append, ← List.append_assoc]
    exact h.sublist.append_right [c]
  · rw [h.run_eq]
    simp only [hc.opened, hc.ended, List.map_append, List.map_cons, List.map_nil, List.append_assoc,
      List.cons_append, List.nil_append]

/-! ### Calls side by side -/

theorem Completed.append (h : Completed t calls order r) (h' : Completed r.tracer calls' order' r') :
    Completed t (calls ++ calls') (order ++ order') r' := by
  obtain ⟨hquiet, rfl⟩ := h
  obtain ⟨hquiet', rfl⟩ := h'
  refine ⟨List.forall_mem_append.2 ⟨hquiet, hquiet'⟩, ?_⟩
  simp only [List.map_append, List.append_assoc]

/-- Calls that completed come before those that are left until one raises. -/
theorem Completed.append_stopped (h : Completed t calls order r) (hperm : order.Perm calls)
    (h' : Stopped r.tracer around calls' order' r' before p inner ran text) :
    Stopped t around (calls ++ calls') (order ++ order') r' (order ++ before) p inner (calls ++ ran)
      text := by
  obtain ⟨hquiet, rfl⟩ := h
  refine ⟨List.forall_mem_append.2 ⟨hquiet, h'.quiet⟩, h'.raises, ?_, h'.around_eq,
    (List.prefix_append_right_inj _).2 h'.entered, ?_, ?_, ?_, ?_⟩
  · rw [List.append_assoc]
    exact (List.prefix_append_right_inj _).2 h'.first
  · have hcount := h'.length_eq
    rw [List.length_append, List.length_map] at hcount
    rw [List.length_append]
    omega
  · rw [List.append_assoc]
    exact hperm.append h'.perm
  · rw [List.append_assoc]
    exact (List.Sublist.refl _).append h'.sublist
  · rw [h'.run_eq]
    simp only [List.map_append, List.append_assoc]

/-- Calls behind one that raises are not entered. -/
theorem Stopped.append (h : Stopped t around calls order r before p inner ran text)
    (calls' order' : List Call) :
    Stopped t around (calls ++ calls') (order ++ order') r before p inner ran text :=
  ⟨h.quiet, h.raises, h.first.trans (List.prefix_append _ _), h.around_eq,
    h.entered.trans (List.prefix_append _ _), h.length_eq, h.perm,
    h.sublist.trans (List.sublist_append_left _ _), h.run_eq⟩

end Steps

/-! ### Trees -/

namespace SpanNode

mutual

theorem run_spec (node : SpanNode) {t : Tracer} {around : List Call}
    (hcurrent : t.current = innermost around) :
    Completed t (entering t.opened.length around node) (leaving t.opened.length around node)
        (run t node) ∨
      ∃ before p inner ran text, Stopped t around (entering t.opened.length around node)
        (leaving t.opened.length around node) (run t node) before p inner ran text := by
  match node with
  | .node name activate attributes children failure =>
    have hc := entered_node hcurrent name activate attributes children failure
    have hinner := runAll_spec children hc.current
    rw [hc.opened, List.length_append, List.length_singleton] at hinner
    rw [entering, leaving]
    rcases hinner with h | ⟨before, p, inner, ran, text, h⟩
    · have hcurrent' := congrArg (fun r => r.tracer.current) h.2
      have hquiet := congrArg SpanRun.failure h.2
      cases failure with
      | none =>
        rw [run_node hc rfl hcurrent' (by rw [hquiet])]
        exact .inl (h.close hc rfl)
      | some text =>
        rw [run_node hc rfl hcurrent' (by rw [hquiet])]
        refine .inr ⟨_, _, _, _, text, h.raise hc rfl rfl (leavingAll_perm _ _ children) ?_⟩
        rw [length_enteringAll]
        rfl
    · have hcurrent' := congrArg (fun r => r.tracer.current) h.run_eq
      have hraised := congrArg SpanRun.failure h.run_eq
      rw [run_node hc rfl hcurrent' (by rw [hraised])]
      exact .inr ⟨before, p, _, _, text, h.close hc⟩

theorem runAll_spec (nodes : List SpanNode) {t : Tracer} {around : List Call}
    (hcurrent : t.current = innermost around) :
    Completed t (enteringAll t.opened.length around nodes)
        (leavingAll t.opened.length around nodes) (runAll t nodes) ∨
      ∃ before p inner ran text, Stopped t around (enteringAll t.opened.length around nodes)
        (leavingAll t.opened.length around nodes) (runAll t nodes) before p inner ran text := by
  match nodes with
  | [] =>
    refine .inl ⟨nofun, ?_⟩
    rw [runAll, enteringAll, leavingAll]
    simp
  | head :: rest =>
    rw [enteringAll, leavingAll]
    rcases run_spec head hcurrent with h | ⟨before, p, inner, ran, text, h⟩
    · -- the first node leaves the current span as it was, and the others go on from there
      have hcurrent' : (run t head).tracer.current = innermost around := by
        rw [h.2]
        exact hcurrent
      have hlength : (run t head).tracer.opened.length = t.opened.length + head.size := by
        rw [h.2, List.length_append, List.length_map, length_entering]
      have hall : runAll t (head :: rest) = runAll (run t head).tracer rest := by
        rw [runAll, h.2]
      have hrest := runAll_spec rest hcurrent'
      rw [hlength] at hrest
      rw [hall]
      rcases hrest with h' | ⟨before, p, inner, ran, text, h'⟩
      · exact .inl (h.append h')
      · exact .inr ⟨_, p, inner, _, text, h.append_stopped (leaving_perm _ _ head) h'⟩
    · have hall : runAll t (head :: rest) = run t head := by
        rw [runAll, h.run_eq]
      rw [hall]
      exact .inr ⟨before, p, inner, ran, text, h.append _ _⟩

end

/-! ## Numbers and places -/

mutual

/-- Calls are numbered as they are entered. -/
theorem entering_numbers (number : Nat) (around : List Call) (node : SpanNode) :
    (entering number around node).map Call.number = List.range' number node.size := by
  match node with
  | .node name activate attributes children failure =>
    rw [entering, List.map_cons, enteringAll_numbers, size, List.range'_succ]

theorem enteringAll_numbers (number : Nat) (around : List Call) (nodes : List SpanNode) :
    (enteringAll number around nodes).map Call.number = List.range' number (sizeAll nodes) := by
  match nodes with
  | [] => rfl
  | head :: rest =>
    rw [enteringAll, List.map_append, entering_numbers, enteringAll_numbers, sizeAll,
      List.range'_append_1]

end

/-- The calls around one of these calls were entered before it, or stand around all of them. -/
def EnteredInside (calls around : List Call) : Prop :=
  ∀ c ∈ calls, ∃ inner, c.around = inner ++ around ∧ ∀ d ∈ inner, d ∈ calls ∧ d.number < c.number

mutual

theorem entering_inside (number : Nat) (around : List Call) (node : SpanNode) :
    EnteredInside (entering number around node) around := by
  match node with
  | .node name activate attributes children failure =>
    rw [entering]
    intro c hc
    rcases List.mem_cons.1 hc with rfl | hc
    · exact ⟨[], rfl, nofun⟩
    · obtain ⟨inner, haround, hinner⟩ := enteringAll_inside _ _ children c hc
      have hlater : number < c.number := by
        have hnumber := List.mem_map_of_mem (f := Call.number) hc
        rw [enteringAll_numbers] at hnumber
        have hbounds := List.mem_range'_1.1 hnumber
        omega
      refine ⟨inner ++ [_], by rw [haround, List.append_assoc]; rfl, fun d hd => ?_⟩
      rcases List.mem_append.1 hd with hd | hd
      · exact ⟨List.mem_cons_of_mem _ (hinner d hd).1, (hinner d hd).2⟩
      · rw [List.mem_singleton.1 hd]
        exact ⟨List.mem_cons_self, hlater⟩

theorem enteringAll_inside (number : Nat) (around : List Call) (nodes : List SpanNode) :
    EnteredInside (enteringAll number around nodes) around := by
  match nodes with
  | [] => exact nofun
  | head :: rest =>
    rw [enteringAll]
    intro c hc
    rcases List.mem_append.1 hc with hc | hc
    · obtain ⟨inner, haround, hinner⟩ := entering_inside _ _ head c hc
      exact ⟨inner, haround, fun d hd => ⟨List.mem_append_left _ (hinner d hd).1, (hinner d hd).2⟩⟩
    · obtain ⟨inner, haround, hinner⟩ := enteringAll_inside _ _ rest c hc
      exact ⟨inner, haround, fun d hd => ⟨List.mem_append_right _ (hinner d hd).1, (hinner d hd).2⟩⟩

end

end SpanNode

/-- A call that is found innermost is activated. -/
theorem innermost_eq_some {calls : List Call} {number : Nat} (h : innermost calls = some number) :
    ∃ c ∈ calls, c.number = number ∧ c.node.isActivated = true := by
  obtain ⟨c, hc, hnumber⟩ := Option.map_eq_some_iff.1 h
  have hactivated : c.node.isActivated = true :=
    List.find?_some (p := fun d : Call => d.node.isActivated) hc
  exact ⟨c, List.mem_of_find?_eq_some hc, hnumber, hactivated⟩

/-- A list of calls that starts like a numbered one is numbered. -/
theorem numbers_of_start {ran calls : List Call} (h : ran <+: calls) {n size : Nat}
    (hnumbers : calls.map Call.number = List.range' n size) :
    ran.map Call.number = List.range' n ran.length := by
  obtain ⟨rest, rfl⟩ := h
  rw [List.map_append, eq_comm, List.range'_eq_append_iff] at hnumbers
  obtain ⟨k, -, hran, -⟩ := hnumbers
  have hlength := congrArg List.length hran
  rw [List.length_map, List.length_range'] at hlength
  rw [hran, hlength]

/-- In any first part of all calls, the calls around a call belong to it, so what a call has as its
parent or as the current span is an activated call in it. -/
theorem activated_of_start {nodes : List SpanNode} {ran : List Call}
    (hran : ran <+: SpanNode.enteringAll 0 [] nodes) {c : Call} (hc : c ∈ ran) {m : Nat}
    (hm : c.parent = some m ∨ c.current = some m) :
    ∃ d ∈ ran, d.number = m ∧ d.node.isActivated = true := by
  obtain ⟨inner, haround, hinner⟩ := SpanNode.enteringAll_inside 0 [] nodes c (hran.subset hc)
  rw [List.append_nil] at haround
  subst haround
  -- a call around another one has a smaller number, and numbers grow in the order of entering
  have hmem : ∀ d ∈ c.around, d ∈ ran := by
    intro d hd
    obtain ⟨hcall, hlt⟩ := hinner d hd
    obtain ⟨rest, hrest⟩ := hran
    have hsorted : ((ran ++ rest).map Call.number).Pairwise (· < ·) := by
      rw [hrest, SpanNode.enteringAll_numbers]
      exact List.pairwise_lt_range'
    rw [← hrest] at hcall
    rcases List.mem_append.1 hcall with hd | hd
    · exact hd
    · have hafter := (List.pairwise_append.1 (List.pairwise_map.1 hsorted)).2.2 c hc d hd
      omega
  rcases hm with hm | hm
  · obtain ⟨d, hd, hnumber, hactivated⟩ := innermost_eq_some hm
    exact ⟨d, hmem d hd, hnumber, hactivated⟩
  · obtain ⟨d, hd, hnumber, hactivated⟩ := innermost_eq_some hm
    rcases List.mem_cons.1 hd with rfl | hd
    · exact ⟨d, hc, hnumber, hactivated⟩
    · exact ⟨d, hmem d hd, hnumber, hactivated⟩

theorem opened_attributes (c : Call) (h : ValidAttributes c.node.attributes) :
    c.opened.attributes =
      (c.node.attributes.filter fun a => !isNull a.2).rtake attributeLimit := by
  obtain ⟨number, ⟨name, activate, attributes, children, failure⟩, around⟩ := c
  exact keptAttributes_eq h

/-- Spans nest and close.  The calls that run are a first part of all calls in the order in which they
are entered.

* Each of them opens a span.  Its parent is the innermost activated call around it, and the current
  span is the innermost activated one too, so neither is ever a detached span.
* It holds the attributes that are not null, the last of them if they are more than it can hold.
* Each of them is closed once, in the order in which calls are left, and gives way to its parent as
  the current span.
* If no call raises, all calls run and no span fails.
* Otherwise the first call that raises is the last one to run, with what is below it.  Its failure
  leaves all calls unchanged.  The spans of this call and of the calls around it fail, and no other
  span does. -/
theorem spans_nest (nodes : List SpanNode) :
    ∃ ran closed : List Call,
      ran <+: SpanNode.enteringAll 0 [] nodes ∧
      closed.Sublist (SpanNode.leavingAll 0 [] nodes) ∧ closed.Perm ran ∧
      ran.map Call.number = List.range ran.length ∧
      (SpanNode.runAll {} nodes).tracer.opened = ran.map Call.opened ∧
      (∀ c ∈ ran, ∀ m, c.parent = some m ∨ c.current = some m →
        ∃ d ∈ ran, d.number = m ∧ d.node.isActivated = true) ∧
      (∀ c ∈ ran, ValidAttributes c.node.attributes → c.opened.attributes =
        (c.node.attributes.filter fun a => !isNull a.2).rtake attributeLimit) ∧
      ((SpanNode.runAll {} nodes).failure = none ∧
          ran = SpanNode.enteringAll 0 [] nodes ∧ (∀ c ∈ ran, c.node.raises = none) ∧
          (SpanNode.runAll {} nodes).tracer.ended = closed.map (Call.ended none) ∨
        ∃ before p text, (before ++ [p]) <+: SpanNode.leavingAll 0 [] nodes ∧
          (∀ c ∈ before, c.node.raises = none) ∧ p.node.raises = some text ∧
          (SpanNode.runAll {} nodes).failure = some (.raised text) ∧
          ran.length = p.number + p.node.size ∧ closed = before ++ p :: p.around ∧
          (SpanNode.runAll {} nodes).tracer.ended = before.map (Call.ended none) ++
            (p :: p.around).map (Call.ended (some (.raised text)))) := by
  have hnumbers : ∀ ran, ran <+: SpanNode.enteringAll 0 [] nodes →
      ran.map Call.number = List.range ran.length := by
    intro ran hran
    rw [numbers_of_start hran (SpanNode.enteringAll_numbers 0 [] nodes), List.range_eq_range']
  have hstart : ({} : Tracer).current = innermost [] := rfl
  rcases SpanNode.runAll_spec nodes hstart with ⟨hquiet, hrun⟩ | ⟨before, p, inner, ran, text, h⟩
  · have hperm := SpanNode.leavingAll_perm 0 [] nodes
    refine ⟨_, _, List.prefix_rfl, List.Sublist.refl _, hperm, hnumbers _ List.prefix_rfl,
      by rw [hrun]; rfl, fun c hc m => activated_of_start List.prefix_rfl hc,
      fun c _ => opened_attributes c, .inl ⟨by rw [hrun], rfl, ?_, by rw [hrun]; rfl⟩⟩
    exact fun c hc => hquiet c (hperm.mem_iff.2 hc)
  · have haround := h.around_eq
    rw [List.append_nil] at haround
    subst haround
    have hlength : ran.length = p.number + p.node.size := (Nat.zero_add _).symm.trans h.length_eq
    exact ⟨ran, _, h.entered, h.sublist, h.perm, hnumbers _ h.entered, by rw [h.run_eq]; rfl,
      fun c hc m => activated_of_start h.entered hc, fun c _ => opened_attributes c,
      .inr ⟨before, p, text, h.first, h.quiet, h.raises, by rw [h.run_eq], hlength, rfl,
        by rw [h.run_eq]; rfl⟩⟩

/-- A detached span inside an activated one, whose second child raises. -/
example :
    let leaf name failure := SpanNode.node name true [] [] failure
    let r := SpanNode.runAll {} [.node "outer" true [] [.node "detached" false []
      [leaf "first" none, leaf "second" (some "boom"), leaf "third" none] none] none]
    r.tracer.opened.map OpenedSpan.parent = [none, some 0, some 0, some 0] ∧
      r.tracer.ended.map (fun e => (e.number, e.failure.isSome)) =
        [(2, false), (3, true), (1, true), (0, true)] := by
  exact ⟨rfl, rfl⟩

/-! ## More attributes than a span can hold -/

/-- One attribute more than a span can hold. -/
def manyAttributes : List (String × Json) :=
  (List.range 129).map fun n => (String.ofList (List.replicate (n + 1) 'k'), .int n)

theorem manyAttributes_valid : ValidAttributes manyAttributes := by
  constructor
  · rw [manyAttributes, List.map_map]
    refine List.nodup_range.map fun a b hab => ?_
    have hlength := congrArg (fun s : String => s.toList.length) hab
    simpa using hlength
  · intro a ha
    obtain ⟨n, -, rfl⟩ := List.mem_map.1 ha
    refine ⟨?_, .inr rfl⟩
    simp [List.replicate_succ]

theorem manyAttributes_set : (manyAttributes.filter fun a => !isNull a.2).length = 129 := by
  have hset : ∀ a ∈ manyAttributes, (!isNull a.2) = true := by
    intro a ha
    obtain ⟨n, -, rfl⟩ := List.mem_map.1 ha
    rfl
  rw [List.filter_eq_self.2 hset, manyAttributes, List.length_map, List.length_range]

/-- A span that is given more attributes than it can hold does not keep all of them. -/
theorem attributes_forgotten :
    ValidAttributes manyAttributes ∧
      (SpanNode.runAll {} [.node "a" true manyAttributes [] none]).tracer.opened.map
        OpenedSpan.attributes ≠ [manyAttributes.filter fun a => !isNull a.2] := by
  refine ⟨manyAttributes_valid, ?_⟩
  have hopened : ∀ attributes,
      (SpanNode.runAll {} [.node "a" true attributes [] none]).tracer.opened.map
        OpenedSpan.attributes = [keptAttributes attributes] := fun _ => rfl
  rw [hopened, keptAttributes_eq manyAttributes_valid]
  intro h
  have hlength := congrArg List.length (List.head_eq_of_cons_eq h)
  rw [List.rtake, List.length_drop, manyAttributes_set] at hlength
  exact absurd hlength (by decide)

end ChargingReport
