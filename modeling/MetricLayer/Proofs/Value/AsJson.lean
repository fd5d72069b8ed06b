import MetricLayer.Proofs.Cache.Key

/-!
# Values that JSON lacks

The canonical text of a value that JSON lacks is that of a JSON value, `Value.asJson`.  So whatever
values the filters of two requests hold, requests with one text are for one metric
(`ResultRequest.metricId_of_canonical_eq`).
-/

namespace MetricLayer

namespace Value

mutual

/-- The JSON value with the same canonical text. -/
def asJson : Value → Value
  | decimal d => text d.text
  | date d => text d.text
  | moment m => text (m.textWith " ")
  | duration d => text d.text
  | bytes bs => text (shownBytes bs)
  | list items => list (asJsonItems items)
  | tuple items => list (asJsonItems items)
  | object fields => object (asJsonFields fields)
  | v => v

/-- The items of a list as JSON values. -/
def asJsonItems : List Value → List Value
  | [] => []
  | v :: rest => v.asJson :: asJsonItems rest

/-- The fields of an object with their values as JSON values. -/
def asJsonFields : Fields → Fields
  | [] => []
  | (name, v) :: rest => (name, v.asJson) :: asJsonFields rest

end

mutual

theorem canonical_asJson (v : Value) : v.asJson.canonical = v.canonical := by
  cases v with
  | list items => rw [asJson, canonical, canonical, canonicalItems_asJson items]
  | tuple items => rw [asJson, canonical, canonical, canonicalItems_asJson items]
  | object fields => rw [asJson, canonical, canonical, canonicalFields_asJson fields]
  | _ => rfl

theorem canonicalItems_asJson (items : List Value) :
    canonicalItems (asJsonItems items) = canonicalItems items := by
  cases items with
  | nil => rfl
  | cons v rest =>
    rw [asJsonItems, canonicalItems, canonicalItems, canonical_asJson v, canonicalItems_asJson rest]

theorem canonicalFields_asJson (fields : Fields) :
    canonicalFields (asJsonFields fields) = canonicalFields fields := by
  cases fields with
  | nil => rfl
  | cons f rest =>
    obtain ⟨name, v⟩ := f
    rw [asJsonFields, canonicalFields, canonicalFields, canonical_asJson v,
      canonicalFields_asJson rest]

end

mutual

theorem isJson_asJson (v : Value) : v.asJson.IsJson := by
  cases v with
  | null => exact .scalar .null
  | bool b => exact .scalar (.bool b)
  | int i => exact .scalar (.int i)
  | float x => exact .scalar (.float x)
  | list items => exact .list (isJson_asJsonItems items)
  | tuple items => exact .list (isJson_asJsonItems items)
  | object fields => exact .object (isJson_asJsonFields fields)
  | _ => exact .text _

theorem isJson_asJsonItems (items : List Value) : ∀ v ∈ asJsonItems items, v.IsJson := by
  cases items with
  | nil => exact List.forall_mem_nil _
  | cons v rest => exact List.forall_mem_cons.2 ⟨isJson_asJson v, isJson_asJsonItems rest⟩

theorem isJson_asJsonFields (fields : Fields) : ∀ f ∈ asJsonFields fields, f.2.IsJson := by
  cases fields with
  | nil => exact List.forall_mem_nil _
  | cons f rest =>
    obtain ⟨name, v⟩ := f
    exact List.forall_mem_cons.2 ⟨isJson_asJson v, isJson_asJsonFields rest⟩

end

/-- Objects that are equal up to the order of fields have the same fields up to that. -/
theorem exists_field_of_ordered_eq {fields fields' : Fields}
    (h : (object fields).ordered = (object fields').ordered) {f : String × Value}
    (hf : f ∈ fields) : ∃ g ∈ fields', g.1 = f.1 ∧ g.2.ordered = f.2.ordered := by
  rw [ordered_object, ordered_object] at h
  have hmem : (f.1, f.2.ordered) ∈ (sortByName fields).map fun f => (f.1, f.2.ordered) :=
    List.mem_map.2 ⟨f, (sortByName_perm fields).mem_iff.2 hf, rfl⟩
  rw [Value.object.inj h] at hmem
  obtain ⟨g, hg, hsame⟩ := List.mem_map.1 hmem
  obtain ⟨hname, hvalue⟩ := Prod.mk.inj hsame
  exact ⟨g, (sortByName_perm fields').mem_iff.1 hg, hname, hvalue⟩

end Value

namespace ResultRequest

/-- Only one field of a request names its metric. -/
theorem asJson_value (r : ResultRequest) : ∃ others : Fields,
    r.value.asJson = .object (("metric_id", .text r.metricId) :: others)
      ∧ ∀ f ∈ others, f.1 ≠ "metric_id" := by
  refine ⟨_, rfl, fun f hf => ?_⟩
  simp only [Value.asJsonFields, List.mem_cons, List.not_mem_nil, or_false] at hf
  rcases hf with rfl | rfl | rfl <;> simp

/-- Requests with one text are for one metric. -/
theorem metricId_of_canonical_eq {r s : ResultRequest} (h : r.value.canonical = s.value.canonical) :
    r.metricId = s.metricId := by
  rw [← Value.canonical_asJson, ← Value.canonical_asJson s.value] at h
  have hordered := Value.ordered_eq_of_canonical_eq (Value.isJson_asJson r.value)
    (Value.isJson_asJson s.value) h
  obtain ⟨others, hr, -⟩ := r.asJson_value
  obtain ⟨others', hs, hothers⟩ := s.asJson_value
  rw [hr, hs] at hordered
  obtain ⟨g, hg, hname, hvalue⟩ := Value.exists_field_of_ordered_eq hordered List.mem_cons_self
  rcases List.mem_cons.1 hg with rfl | hg
  · exact (Value.text.inj hvalue).symm
  · exact absurd hname (hothers g hg)

end ResultRequest

end MetricLayer
