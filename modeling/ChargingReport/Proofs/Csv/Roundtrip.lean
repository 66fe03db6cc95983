import ChargingReport.Csv.Reader

/-!
# Written records are read back

`Csv.read_encode` says that a text of records reads as these records, whatever their fields hold.
A record must have two fields at least, since a record with one empty field and a record without
fields are both written as an empty line.

The proof follows the text from the inside out.

* `Reader.feed_doubleQuotes` and `Reader.feed_plain` read the characters of a field, with and without
  quotes around it.
* `Reader.feed_quotedField` and `Reader.feed_plainField` read a field up to the character behind it,
  and `Reader.feed_field` is both of them.
* `Reader.feed_joinFields` reads the fields of a record and its line end, once its first field has
  begun.
* `Reader.feed_encodeRecord` begins a record, and `Reader.feed_records` goes through all records.
-/

namespace ChargingReport

namespace Csv

namespace Reader

/-! ## Characters -/

/-- Text in two parts is read part by part. -/
theorem feed_append {r r' : Reader} {cs : List Char} (h : r.feed cs = .ok r') (rest : List Char) :
    r.feed (cs ++ rest) = r'.feed rest := by
  induction cs generalizing r with
  | nil =>
    cases h
    rfl
  | cons c cs ih =>
    rw [List.cons_append, feed]
    rw [feed] at h
    cases hnext : r.next c with
    | error e =>
      rw [hnext] at h
      cases h
    | ok r₁ =>
      rw [hnext] at h
      exact ih h

/-- A field within quotes is read with every two quotes as one. -/
theorem feed_doubleQuotes (r : Reader) (hstate : r.state = .quoted) (cs : List Char) :
    r.feed (doubleQuotes cs) = .ok { r with field := r.field ++ cs } := by
  induction cs generalizing r with
  | nil => simp [doubleQuotes, feed]
  | cons c cs ih =>
    have hrest := ih (r.add c) hstate
    have hfield : (r.add c).field ++ cs = r.field ++ c :: cs := by
      rw [add, List.append_assoc]
      rfl
    have hadd : r.feed (if c = '"' then ['"', '"'] else [c]) = .ok (r.add c) := by
      by_cases hquote : c = '"'
      · -- the first quote might close the field, and the second says that it does not
        rw [if_pos hquote, hquote]
        simp [feed, next, step, hstate, add, Except.map, Except.bind]
      · rw [if_neg hquote]
        by_cases hline : c = '\n' <;>
          simp [feed, next, step, hstate, hquote, hline, endLine, add, Except.map, Except.bind]
    rw [doubleQuotes, List.flatMap_cons, feed_append hadd]
    rw [doubleQuotes, hfield] at hrest
    exact hrest

/-- A character that needs no quotes is added to a field outside of quotes. -/
theorem next_of_plain {r : Reader} (hstate : r.state = .fieldStart ∨ r.state = .plain) {c : Char}
    (hc : isSpecial c = false) : r.next c = .ok { r.add c with state := .plain } := by
  simp only [isSpecial, Bool.or_eq_false_iff, beq_eq_false_iff_ne] at hc
  obtain ⟨⟨⟨hcomma, hquote⟩, hreturn⟩, hfeed⟩ := hc
  have hline : isLineEnd c = false := by simp [isLineEnd, hreturn, hfeed]
  have hstep : r.step c = .ok (r.inField c) := by
    rcases hstate with h | h
    · rw [step, h]
      simp only [startField, if_neg hquote]
    · rw [step, h]
  rw [next, hstep, inField, hline]
  simp [hcomma, hfeed, Except.map]

/-- A field outside of quotes is read as it stands. -/
theorem feed_plain {r : Reader} (hstate : r.state = .plain) {cs : List Char}
    (hcs : cs.any isSpecial = false) : r.feed cs = .ok { r with field := r.field ++ cs } := by
  induction cs generalizing r with
  | nil => simp [feed]
  | cons c cs ih =>
    rw [List.any_cons, Bool.or_eq_false_iff] at hcs
    have hnext : r.next c = .ok (r.add c) := by
      rw [next_of_plain (Or.inr hstate) hcs.1, ← hstate]
      rfl
    have hrest : (r.add c).feed cs = .ok { r.add c with field := (r.add c).field ++ cs } :=
      ih hstate hcs.2
    rw [feed, hnext]
    show (r.add c).feed cs = _
    rw [hrest, add, List.append_assoc]
    rfl

/-! ## Fields -/

/-- What a comma or a line end behind a field leaves: the field is one more of the record. -/
def behind (r : Reader) (field : String) (c : Char) : Reader :=
  { r with
    state := if c = ',' then .fieldStart else .lineBreak
    field := []
    fields := r.fields ++ [field] }

/-- The character behind a field closes it, in each of the three states that it can be met in. -/
theorem next_behind {r : Reader}
    (hstate : r.state = .fieldStart ∨ r.state = .plain ∨ r.state = .quoteSeen) {c : Char}
    (hc : c = ',' ∨ c = '\r') : r.next c = .ok (r.behind (String.ofList r.field) c) := by
  have hquote : c ≠ '"' := by rcases hc with rfl | rfl <;> decide
  have hfeed : c ≠ '\n' := by rcases hc with rfl | rfl <;> decide
  have hstep : r.step c = .ok (r.inField c) := by
    rcases hstate with h | h | h <;> simp [step, h, startField, hquote]
  rw [next, hstep]
  simp only [Except.map, if_neg hfeed]
  rcases hc with rfl | rfl <;> rfl

theorem feed_behind {r : Reader}
    (hstate : r.state = .fieldStart ∨ r.state = .plain ∨ r.state = .quoteSeen) {c : Char}
    (hc : c = ',' ∨ c = '\r') : r.feed [c] = .ok (r.behind (String.ofList r.field) c) := by
  rw [feed, next_behind hstate hc]
  rfl

/-- A field within quotes is read back, up to the character behind it. -/
theorem feed_quotedField {r : Reader} (hstate : r.state = .fieldStart) (hfield : r.field = [])
    (cs : List Char) {c : Char} (hc : c = ',' ∨ c = '\r') :
    r.feed (('"' :: doubleQuotes cs ++ ['"']) ++ [c]) = .ok (r.behind (String.ofList cs) c) := by
  have hopen : r.feed ['"'] = .ok { r with state := .quoted } := by
    simp [feed, next, step, hstate, startField, Except.map, Except.bind]
  have hinside := feed_doubleQuotes { r with state := .quoted } rfl cs
  have hclose : ∀ r' : Reader, r'.state = .quoted →
      r'.feed ['"'] = .ok { r' with state := .quoteSeen } := by
    intro r' h
    simp [feed, next, step, h, Except.map, Except.bind]
  have hsplit : ('"' :: doubleQuotes cs ++ ['"']) ++ [c] =
      ['"'] ++ (doubleQuotes cs ++ (['"'] ++ [c])) := by simp
  rw [hsplit, feed_append hopen, feed_append hinside, feed_append (hclose _ rfl),
    feed_behind (Or.inr (Or.inr rfl)) hc]
  simp [behind, hfield]

/-- A field without quotes is read back, up to the character behind it. -/
theorem feed_plainField {r : Reader} (hstate : r.state = .fieldStart) (hfield : r.field = [])
    {cs : List Char} (hcs : cs.any isSpecial = false) {c : Char} (hc : c = ',' ∨ c = '\r') :
    r.feed (cs ++ [c]) = .ok (r.behind (String.ofList cs) c) := by
  cases cs with
  | nil =>
    -- nothing is read before the character behind an empty field
    rw [List.nil_append, feed_behind (Or.inl hstate) hc, hfield]
  | cons first cs =>
    rw [List.any_cons, Bool.or_eq_false_iff] at hcs
    have hfirst : r.feed [first] = .ok { r.add first with state := .plain } := by
      rw [feed, next_of_plain (Or.inl hstate) hcs.1]
      rfl
    have hsplit : (first :: cs) ++ [c] = [first] ++ (cs ++ [c]) := rfl
    rw [hsplit, feed_append hfirst, feed_append (feed_plain rfl hcs.2),
      feed_behind (Or.inr (Or.inl rfl)) hc]
    simp [behind, add, hfield]

/-- A field is read back, up to the character behind it. -/
theorem feed_field {r : Reader} (hstate : r.state = .fieldStart) (hfield : r.field = [])
    (s : String) {c : Char} (hc : c = ',' ∨ c = '\r') :
    r.feed (encodeField s ++ [c]) = .ok (r.behind s c) := by
  have hread : String.ofList s.toList = s := String.ofList_toList
  unfold encodeField
  simp only
  by_cases hspecial : s.toList.any isSpecial = true
  · rw [if_pos hspecial, feed_quotedField hstate hfield _ hc, hread]
  · rw [Bool.not_eq_true] at hspecial
    rw [hspecial, if_neg Bool.false_ne_true, feed_plainField hstate hfield hspecial hc, hread]

/-! ## Records -/

/-- The line feed behind a record closes it. -/
theorem feed_lineFeed {r : Reader} (hstate : r.state = .lineBreak) :
    r.feed ['\n'] = .ok r.emit := by
  simp [feed, next, step, hstate, isLineEnd, endLine, Except.map, Except.bind]

/-- The fields of a record and its line end are read back, once the first field has begun. -/
theorem feed_joinFields {r : Reader} (hstate : r.state = .fieldStart) (hfield : r.field = [])
    {fields : List String} (hfields : fields ≠ []) :
    r.feed (joinFields (fields.map encodeField) ++ lineEnd) =
      .ok { r with
        state := .recordStart, fields := [], records := r.records ++ [r.fields ++ fields] } := by
  induction fields generalizing r with
  | nil => exact absurd rfl hfields
  | cons field rest ih =>
    cases rest with
    | nil =>
      have hsplit : joinFields [encodeField field] ++ lineEnd =
          (encodeField field ++ ['\r']) ++ ['\n'] := by
        rw [List.append_assoc]
        rfl
      rw [List.map_cons, List.map_nil, hsplit, feed_append (feed_field hstate hfield field
        (Or.inr rfl)), feed_lineFeed rfl]
      simp [emit, behind, hfield]
    | cons second rest =>
      have hsplit : joinFields ((field :: second :: rest).map encodeField) ++ lineEnd =
          (encodeField field ++ [',']) ++
            (joinFields ((second :: rest).map encodeField) ++ lineEnd) := by
        simp [joinFields]
      rw [hsplit, feed_append (feed_field hstate hfield field (Or.inl rfl)),
        ih rfl rfl (List.cons_ne_nil _ _)]
      simp [behind, hfield]

/-- A record begins with its first field, unless it begins with a line end. -/
theorem feed_recordStart {r : Reader} (hstate : r.state = .recordStart) {cs : List Char}
    (hcs : ∀ c ∈ cs.head?, isLineEnd c = false) (hne : cs ≠ []) :
    r.feed cs = { r with state := .fieldStart }.feed cs := by
  cases cs with
  | nil => exact absurd rfl hne
  | cons c cs =>
    have hc : isLineEnd c = false := hcs c rfl
    have hstep : r.step c = { r with state := .fieldStart }.step c := by
      simp [step, hstate, hc, startField, inField, save, add]
    rw [feed, feed, next, next, hstep]

/-- A record of two fields or more does not begin with a line end: its first field has quotes around
it, or begins with another character, or is empty and has a comma behind it. -/
theorem head_encodeRecord (first second : String) (rest : List String) :
    ∀ c ∈ (encodeRecord (first :: second :: rest)).head?, isLineEnd c = false := by
  have hsplit : encodeRecord (first :: second :: rest) = encodeField first ++
      (',' :: (joinFields ((second :: rest).map encodeField) ++ lineEnd)) := by
    simp [encodeRecord, joinFields]
  rw [hsplit]
  unfold encodeField
  intro c hc
  by_cases hspecial : first.toList.any isSpecial = true
  · simp only [if_pos hspecial, List.cons_append, List.head?_cons, Option.mem_some] at hc
    rw [← hc]
    rfl
  · simp only [if_neg hspecial] at hc
    cases hfirst : first.toList with
    | nil =>
      rw [hfirst, List.nil_append, List.head?_cons, Option.mem_some] at hc
      rw [← hc]
      rfl
    | cons d ds =>
      rw [hfirst, List.cons_append, List.head?_cons, Option.mem_some] at hc
      rw [hfirst, Bool.not_eq_true, List.any_cons, Bool.or_eq_false_iff, hc] at hspecial
      have hplain := hspecial.1
      simp only [isSpecial, Bool.or_eq_false_iff] at hplain
      rw [isLineEnd, hplain.1.2, hplain.2]
      rfl

/-- A record of two fields or more is read back. -/
theorem feed_encodeRecord {r : Reader} (hstate : r.state = .recordStart) (hfield : r.field = [])
    (hnone : r.fields = []) {fields : List String} (hfields : 2 ≤ fields.length) :
    r.feed (encodeRecord fields) = .ok { r with records := r.records ++ [fields] } := by
  match fields, hfields with
  | first :: second :: rest, _ =>
    have hne : encodeRecord (first :: second :: rest) ≠ [] := by
      rw [encodeRecord]
      exact List.append_ne_nil_of_right_ne_nil _ (List.cons_ne_nil _ _)
    have hbegun := @feed_joinFields { r with state := .fieldStart } rfl hfield
      (first :: second :: rest) (List.cons_ne_nil _ _)
    rw [feed_recordStart hstate (head_encodeRecord first second rest) hne, encodeRecord, hbegun,
      hnone, ← hstate]
    rfl

/-- Records of two fields or more are read back one after the other. -/
theorem feed_records {records : List (List String)} (hrecords : ∀ fields ∈ records,
    2 ≤ fields.length) (before : List (List String)) :
    Reader.feed { records := before } (records.flatMap encodeRecord) =
      .ok { records := before ++ records } := by
  induction records generalizing before with
  | nil => simp [feed]
  | cons fields records ih =>
    have hfirst : Reader.feed { records := before } (encodeRecord fields) =
        .ok { records := before ++ [fields] } :=
      feed_encodeRecord rfl rfl rfl (hrecords fields List.mem_cons_self)
    have hrest := ih (fun rest hrest => hrecords rest (List.mem_cons_of_mem _ hrest))
      (before ++ [fields])
    rw [List.flatMap_cons, feed_append hfirst, hrest, List.append_assoc]
    rfl

end Reader

/-- A text of records with two fields or more is read as these records. -/
theorem read_encode {records : List (List String)}
    (hrecords : ∀ fields ∈ records, 2 ≤ fields.length) :
    read (encode records) = .ok records := by
  rw [read, encode, String.toList_ofList, Reader.feed_records hrecords []]
  rfl

/-- Line ends, quotes and blanks within fields, and a field that is empty. -/
example : read "a,\"b,\"\"\n\"\r\n, c\r\n" = .ok [["a", "b,\"\n"], ["", " c"]] := by rfl

end Csv

end ChargingReport
