import MetricLayer.Http.App
import MetricLayer.Proofs.Check.Checked
import MetricLayer.Proofs.Value.Fields

/-!
# Filters hold JSON values

The filters of a caller come from the body of a request and from the access policy.  When both hold
JSON values only, so do the merged filters under which a metric is run
(`AccessPolicy.IsJson.mergedFilters`).
-/

namespace MetricLayer

namespace AccessPolicy

/-- The filters of all roles and users hold JSON values. -/
structure IsJson (p : AccessPolicy) : Prop where
  /-- The filters of the roles. -/
  roles : ∀ r ∈ p.roles, Fields.IsJson r.2
  /-- The filters from the attributes of the users. -/
  users : ∀ u ∈ p.users, Fields.IsJson u.2.attributes

theorem isJson_unrestricted : IsJson unrestricted :=
  ⟨fun _ h => absurd h List.not_mem_nil, fun _ h => absurd h List.not_mem_nil⟩

variable {p : AccessPolicy}

theorem IsJson.roleFilters (h : p.IsJson) (role : Value) : (p.roleFilters role).IsJson := by
  cases role with
  | text name =>
    rw [AccessPolicy.roleFilters]
    cases hfound : p.roles.lookup name with
    | none => exact .nil
    | some filters => exact h.roles _ (mem_of_lookup hfound)
  | _ => exact .nil

theorem IsJson.userFilters (h : p.IsJson) (userId : Option String) :
    (p.userFilters userId).IsJson := by
  unfold AccessPolicy.userFilters
  split
  · exact .nil
  · next user huser =>
    obtain ⟨id, -, hfound⟩ := Option.bind_eq_some_iff.1 huser
    refine .update ?_ (h.users _ (mem_of_lookup hfound))
    -- every role in turn overlays what was collected before it
    suffices hroles : ∀ (roles : List Value) (acc : Fields), acc.IsJson →
        Fields.IsJson (roles.foldl (fun acc role => acc.update (p.roleFilters role)) acc) from
      hroles user.roles [] .nil
    intro roles
    induction roles with
    | nil => exact fun _ hacc => hacc
    | cons role rest ih => exact fun acc hacc => ih _ (hacc.update (h.roleFilters role))

theorem IsJson.mergedFilters (h : p.IsJson) (userId : Option String) {base : Fields}
    (hbase : base.IsJson) : (p.mergedFilters userId base).IsJson := by
  have huser := h.userFilters userId
  unfold AccessPolicy.mergedFilters bothFilters
  split_ifs
  · exact hbase
  · exact huser
  · refine List.forall_mem_singleton.2 (.list ?_)
    exact List.forall_mem_cons.2 ⟨.object hbase, List.forall_mem_singleton.2 (.object huser)⟩

end AccessPolicy

namespace Http

theorem runBody_filters_isJson {r : Request} {b : RunBody} (hbody : ∀ v ∈ r.body, v.IsJson)
    (h : readBody r RunBody.read = .valid b) : Fields.IsJson b.filters := by
  have hread := Checked.under_eq_valid.1 h
  split at hread
  · next v hv =>
    have hjson := hbody v hv
    cases v with
    | object fs =>
      obtain ⟨_, _, hgroups, -, rfl⟩ := Checked.seq_eq_valid.1 hread
      obtain ⟨_, _, hfirst, -, rfl⟩ := Checked.seq_eq_valid.1 hgroups
      obtain ⟨filters, hfilters, rfl⟩ := Checked.map_eq_valid.1 hfirst
      rcases Reader.optional_eq_valid hfilters with rfl | ⟨w, hw, hfields⟩
      · exact .nil
      · have hwjson := (Fields.IsJson.of_object hjson).get? hw
        cases w with
        | object inner =>
          cases hfields
          exact .of_object hwjson
        | _ => cases hfields
    | _ => cases hread
  · cases hread

end Http

end MetricLayer
