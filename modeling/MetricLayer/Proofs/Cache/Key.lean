import MetricLayer.Cache.Key
import MetricLayer.Catalog.Record
import MetricLayer.Proofs.Value.Canonical

/-!
# Keys tell requests apart

The text whose digest is the key of a request determines the request, up to the order of fields in
its filter tree (`ResultRequest.same_of_canonical_eq`).  What was cached for one request is found
for another one only if the digests of different texts collide.
-/

namespace MetricLayer

open Value

theorem Value.IsJson.orElse {v w : Value} (hv : v.IsJson) (hw : w.IsJson) :
    (v.orElse w).IsJson := by
  rw [Value.orElse]
  split
  · exact hv
  · exact hw

/-- The request as a value is a JSON value when its parts are. -/
theorem isJson_requestValue {id : String} {filters groupBy dateField : Value}
    (hfilters : filters.IsJson) (hgroup : groupBy.IsJson) (hdate : dateField.IsJson) :
    (requestValue id filters groupBy dateField).IsJson := by
  refine .object fun f hf => ?_
  simp only [List.mem_cons, List.not_mem_nil, or_false] at hf
  rcases hf with rfl | rfl | rfl | rfl
  · exact .text id
  · exact hfilters.orElse (.object (by simp))
  · exact hgroup.orElse (.list (by simp))
  · exact hdate

/-- The parts of requests with one text are equal up to the order of fields. -/
theorem requestValue_ordered {id id' : String} {filters filters' groupBy groupBy' dateField
    dateField' : Value} (h : (requestValue id filters groupBy dateField).ordered
      = (requestValue id' filters' groupBy' dateField').ordered) :
    id = id' ∧ (filters.orElse (.object [])).ordered = (filters'.orElse (.object [])).ordered ∧
      (groupBy.orElse (.list [])).ordered = (groupBy'.orElse (.list [])).ordered ∧
      dateField.ordered = dateField'.ordered := by
  rw [requestValue, requestValue, ordered_object, ordered_object] at h
  have hperm := ((sortByName_perm _).map fun f : String × Value => (f.1, f.2.ordered)).symm.trans
    ((List.Perm.of_eq (Value.object.inj h)).trans ((sortByName_perm _).map _))
  have hid := hperm.mem_iff (a := ("metric_id", .text id))
  have hfilters := hperm.mem_iff (a := ("filters", (filters.orElse (.object [])).ordered))
  have hgroup := hperm.mem_iff (a := ("group_by", (groupBy.orElse (.list [])).ordered))
  have hdate := hperm.mem_iff (a := ("date_field", dateField.ordered))
  simp [ordered] at hid hfilters hgroup hdate
  exact ⟨hid, hfilters, hgroup, hdate⟩

/-- Filters with one canonical text make requests with one canonical text. -/
theorem canonical_requestValue {filters filters' : Value} (id : String) (groupBy dateField : Value)
    (h : (filters.orElse (.object [])).canonical = (filters'.orElse (.object [])).canonical) :
    (requestValue id filters groupBy dateField).canonical
      = (requestValue id filters' groupBy dateField).canonical := by
  refine canonical_object_congr ?_
  rw [canonicalFields_eq, canonicalFields_eq]
  exact congrArg (fun t => [("metric_id", (Value.text id).canonical), ("filters", t),
    ("group_by", (groupBy.orElse (.list [])).canonical), ("date_field", dateField.canonical)]) h

/-- A request for the result of a metric. -/
structure ResultRequest where
  /-- The id of the metric. -/
  metricId : String
  /-- The filter tree, if there is one. -/
  filters : Option Fields
  /-- The fields to group by, if they are given. -/
  groupBy : Option (List String)
  /-- The date field, if there is one. -/
  dateField : Option String

namespace ResultRequest

/-- The request as the value whose digest is its key. -/
def value (r : ResultRequest) : Value :=
  requestValue r.metricId ((r.filters.map .object).getD .null)
    ((r.groupBy.map fun names => .list (names.map .text)).getD .null) (.ofText? r.dateField)

/-- The filter tree holds JSON values only. -/
def IsJson (r : ResultRequest) : Prop := ∀ fields ∈ r.filters, ∀ f ∈ fields, f.2.IsJson

variable {r s : ResultRequest}

theorem IsJson.value (h : r.IsJson) : r.value.IsJson := by
  refine isJson_requestValue ?_ ?_ ?_
  · cases hfilters : r.filters with
    | none => exact .scalar .null
    | some fields => exact .object (h fields (by rw [hfilters]; rfl))
  · cases r.groupBy with
    | none => exact .scalar .null
    | some names =>
      refine .list fun v hv => ?_
      obtain ⟨name, -, rfl⟩ := List.mem_map.1 hv
      exact .text name
  · cases r.dateField with
    | none => exact .scalar .null
    | some name => exact .text name

theorem ofText?_ordered_inj {s t : Option String}
    (h : (Value.ofText? s).ordered = (Value.ofText? t).ordered) : s = t := by
  cases s with
  | none =>
    cases t with
    | none => rfl
    | some t => cases h
  | some s =>
    cases t with
    | none => cases h
    | some t => rw [Value.text.inj h]

theorem filters_orElse (r : ResultRequest) :
    ((r.filters.map Value.object).getD .null).orElse (.object []) = .object (r.filters.getD []) := by
  rcases r.filters with _ | _ | ⟨f, rest⟩ <;> rfl

theorem groupBy_orElse (r : ResultRequest) :
    ((r.groupBy.map fun names => Value.list (names.map .text)).getD .null).orElse (.list [])
      = .list ((r.groupBy.getD []).map .text) := by
  rcases r.groupBy with _ | _ | ⟨name, rest⟩ <;> rfl

/-- Requests with one canonical text are for one metric, one date field and one grouping, and their
filter trees are equal up to the order of fields at every depth. -/
theorem same_of_canonical_eq (hr : r.IsJson) (hs : s.IsJson)
    (h : r.value.canonical = s.value.canonical) :
    r.metricId = s.metricId ∧ r.dateField = s.dateField ∧
      r.groupBy.getD [] = s.groupBy.getD [] ∧
      (Value.object (r.filters.getD [])).ordered = (Value.object (s.filters.getD [])).ordered := by
  have hordered := ordered_eq_of_canonical_eq hr.value hs.value h
  obtain ⟨hid, hfilters, hgroup, hdate⟩ := requestValue_ordered hordered
  rw [filters_orElse, filters_orElse] at hfilters
  rw [groupBy_orElse, groupBy_orElse, ordered_list, ordered_list, List.map_map,
    List.map_map] at hgroup
  refine ⟨hid, ofText?_ordered_inj hdate, ?_, hfilters⟩
  exact List.map_injective_iff.2 (fun _ _ h => Value.text.inj h) (Value.list.inj hgroup)

/-- A request with a filter of two fields. -/
def northIn2024 : ResultRequest :=
  ⟨"sales", some [("region", .text "North"), ("year", .int 2024)], none, some "date"⟩

/-- The same request, put differently. -/
def in2024North : ResultRequest :=
  ⟨"sales", some [("year", .int 2024), ("region", .text "North")], some [], some "date"⟩

theorem northIn2024_same :
    northIn2024.value.canonical = in2024North.value.canonical ∧
      (Value.object (northIn2024.filters.getD [])).ordered
        = (Value.object (in2024North.filters.getD [])).ordered := by
  have hjson : northIn2024.IsJson := by
    rintro _ ⟨⟩ f hf
    simp only [List.mem_cons, List.not_mem_nil, or_false] at hf
    rcases hf with rfl | rfl
    · exact .text "North"
    · exact .scalar (.int 2024)
  have hjson' : in2024North.IsJson := by
    rintro _ ⟨⟩ f hf
    simp only [List.mem_cons, List.not_mem_nil, or_false] at hf
    rcases hf with rfl | rfl
    · exact .scalar (.int 2024)
    · exact .text "North"
  have hfilters : (Value.object [("region", .text "North"), ("year", .int 2024)]).canonical
      = (Value.object [("year", .int 2024), ("region", .text "North")]).canonical :=
    canonical_eq_of_perm (.swap _ _ _) (by decide)
  have htext : northIn2024.value.canonical = in2024North.value.canonical := by
    refine canonical_object_congr ?_
    rw [canonicalFields_eq, canonicalFields_eq]
    exact congrArg (fun t => [("metric_id", (Value.text "sales").canonical), ("filters", t),
      ("group_by", (Value.list []).canonical), ("date_field", (Value.text "date").canonical)]) hfilters
  exact ⟨htext, (same_of_canonical_eq hjson hjson' htext).2.2.2⟩

end ResultRequest

end MetricLayer
