import MetricLayer.Proofs.Value.Canonical

/-!
# Fields

What stands in a list of fields after others were laid over it: a field whose name the overlay does
not have stays (`mem_update_of_notMem`), and every name of the overlay has a value of the overlay
(`exists_mem_update`).  After several overlays a field is still there, or one of them has replaced it
(`mem_or_replaced`).  The names of the result are different (`nodup_update`), so fields laid over none
stay as they are exactly when their names differ (`update_nil_eq`).
-/

namespace MetricLayer

/-- What a lookup finds stands in the list. -/
theorem mem_of_lookup {α : Type} {entries : List (String × α)} {key : String} {a : α}
    (h : entries.lookup key = some a) : (key, a) ∈ entries := by
  obtain ⟨before, after, rfl, -⟩ := List.lookup_eq_some_iff.1 h
  exact List.mem_append_right before List.mem_cons_self

namespace Fields

variable {fs overlay : Fields} {name : String} {v : Value} {f : String × Value}

theorem names_cons (f : String × Value) (fs : Fields) : names (f :: fs) = f.1 :: fs.names := rfl

theorem name_mem (h : f ∈ fs) : f.1 ∈ fs.names := List.mem_map_of_mem h

/-! ## Setting a field -/

/-- A new field is added at the end. -/
theorem set_of_notMem (h : name ∉ fs.names) : fs.set name v = fs ++ [(name, v)] := by
  induction fs with
  | nil => rfl
  | cons g rest ih =>
    rw [names_cons, List.mem_cons, not_or] at h
    rw [set, if_neg fun heq => h.1 heq.symm, ih h.2]
    rfl

/-- Setting a field makes a name only when it was not there. -/
theorem names_set :
    (fs.set name v).names = if name ∈ fs.names then fs.names else fs.names ++ [name] := by
  induction fs with
  | nil => rfl
  | cons g rest ih =>
    rw [set]
    by_cases hname : g.1 = name
    · rw [if_pos hname, if_pos (by simp [names, hname])]
      rfl
    · rw [if_neg hname]
      show g.1 :: (set rest name v).names = _
      rw [ih, names_cons]
      by_cases hrest : name ∈ names rest
      · rw [if_pos hrest, if_pos (List.mem_cons_of_mem _ hrest)]
      · have hnot : name ∉ g.1 :: names rest := by
          rw [List.mem_cons, not_or]
          exact ⟨fun heq => hname heq.symm, hrest⟩
        rw [if_neg hrest, if_neg hnot, List.cons_append]

theorem nodup_set (h : fs.names.Nodup) : (fs.set name v).names.Nodup := by
  rw [names_set]
  split
  · exact h
  · next hname =>
    rw [List.nodup_append_comm, List.singleton_append]
    exact List.nodup_cons.2 ⟨hname, h⟩

/-- A field that is there was set or was there before. -/
theorem of_mem_set (h : f ∈ fs.set name v) : f = (name, v) ∨ f ∈ fs := by
  induction fs with
  | nil => exact .inl (List.mem_singleton.1 h)
  | cons g rest ih =>
    rw [set] at h
    split at h
    · next hname =>
      rcases List.mem_cons.1 h with rfl | h
      · exact .inl (congrArg (·, v) hname)
      · exact .inr (List.mem_cons_of_mem g h)
    · rcases List.mem_cons.1 h with rfl | h
      · exact .inr List.mem_cons_self
      · exact (ih h).imp_right (List.mem_cons_of_mem g)

theorem mem_set_self : (name, v) ∈ fs.set name v := by
  induction fs with
  | nil => exact List.mem_singleton_self _
  | cons g rest ih =>
    rw [set]
    split
    · next hname =>
      rw [hname]
      exact List.mem_cons_self
    · exact List.mem_cons_of_mem g ih

theorem mem_set_of_ne (h : f ∈ fs) (hne : f.1 ≠ name) : f ∈ fs.set name v := by
  induction fs with
  | nil => cases h
  | cons g rest ih =>
    rw [set]
    rcases List.mem_cons.1 h with rfl | h
    · rw [if_neg hne]
      exact List.mem_cons_self
    · split
      · exact List.mem_cons_of_mem _ h
      · exact List.mem_cons_of_mem g (ih h)

/-! ## Laying fields over others -/

theorem update_cons (fs : Fields) (f : String × Value) (overlay : Fields) :
    fs.update (f :: overlay) = (fs.set f.1 f.2).update overlay := rfl

theorem nodup_update (h : fs.names.Nodup) : (fs.update overlay).names.Nodup := by
  induction overlay generalizing fs with
  | nil => exact h
  | cons f rest ih => exact ih (nodup_set h)

theorem of_mem_update (h : f ∈ fs.update overlay) : f ∈ fs ∨ f ∈ overlay := by
  induction overlay generalizing fs with
  | nil => exact .inl h
  | cons g rest ih =>
    rcases ih h with hf | hf
    · rcases of_mem_set hf with rfl | hf
      · exact .inr List.mem_cons_self
      · exact .inl hf
    · exact .inr (List.mem_cons_of_mem g hf)

theorem mem_update_of_notMem (h : f ∈ fs) (hnot : f.1 ∉ overlay.names) :
    f ∈ fs.update overlay := by
  induction overlay generalizing fs with
  | nil => exact h
  | cons g rest ih =>
    rw [names_cons, List.mem_cons, not_or] at hnot
    exact ih (mem_set_of_ne h hnot.1) hnot.2

theorem mem_update_of_mem (hoverlay : overlay.names.Nodup) (h : f ∈ overlay) :
    f ∈ fs.update overlay := by
  induction overlay generalizing fs with
  | nil => cases h
  | cons g rest ih =>
    obtain ⟨hg, hrest⟩ := List.nodup_cons.1 hoverlay
    rw [update_cons]
    rcases List.mem_cons.1 h with rfl | h
    · exact mem_update_of_notMem mem_set_self hg
    · exact ih hrest h

/-- Of the values that an overlay has for a name one stands in the result. -/
theorem exists_mem_update (fs : Fields) (h : name ∈ overlay.names) :
    ∃ v, (name, v) ∈ overlay ∧ (name, v) ∈ fs.update overlay := by
  induction overlay generalizing fs with
  | nil => cases h
  | cons g rest ih =>
    rw [update_cons]
    by_cases hrest : name ∈ names rest
    · obtain ⟨v, hv, hmem⟩ := ih (fs.set g.1 g.2) hrest
      exact ⟨v, List.mem_cons_of_mem g hv, hmem⟩
    · obtain rfl : name = g.1 := (List.mem_cons.1 h).resolve_right hrest
      exact ⟨g.2, List.mem_cons_self, mem_update_of_notMem mem_set_self hrest⟩

/-- After overlays one after another a field is still there, or one of them has the value that
stands for its name. -/
theorem mem_or_replaced (overlays : List Fields) (h : f ∈ fs) :
    f ∈ overlays.foldl update fs
      ∨ ∃ o ∈ overlays, ∃ v, (f.1, v) ∈ o ∧ (f.1, v) ∈ overlays.foldl update fs := by
  induction overlays generalizing fs f with
  | nil => exact .inl h
  | cons o rest ih =>
    by_cases hname : f.1 ∈ o.names
    · obtain ⟨v, hv, hmem⟩ := exists_mem_update fs hname
      rcases ih hmem with hkept | ⟨later, hlater, w, hw, hresult⟩
      · exact .inr ⟨o, List.mem_cons_self, v, hv, hkept⟩
      · exact .inr ⟨later, List.mem_cons_of_mem o hlater, w, hw, hresult⟩
    · rcases ih (mem_update_of_notMem h hname) with hkept | ⟨later, hlater, hreplaced⟩
      · exact .inl hkept
      · exact .inr ⟨later, List.mem_cons_of_mem o hlater, hreplaced⟩

theorem update_eq_append (h : (fs ++ overlay).names.Nodup) : fs.update overlay = fs ++ overlay := by
  induction overlay generalizing fs with
  | nil => exact (List.append_nil fs).symm
  | cons g rest ih =>
    have hnames : (fs ++ g :: rest).names = fs.names ++ g.1 :: names rest := List.map_append
    have hnot : g.1 ∉ fs.names := by
      rw [hnames] at h
      exact fun hmem => List.disjoint_of_nodup_append h hmem List.mem_cons_self
    rw [update_cons, set_of_notMem hnot, ih (by rwa [List.append_assoc]), List.append_assoc]
    rfl

/-- Fields that are set one after another are all kept exactly when their names differ. -/
theorem update_nil_eq : update [] fs = fs ↔ fs.names.Nodup := by
  constructor
  · intro h
    rw [← h]
    exact nodup_update List.nodup_nil
  · intro h
    exact update_eq_append (show (names ([] ++ fs)).Nodup from h)

/-- All fields hold JSON values. -/
def IsJson (fs : Fields) : Prop := ∀ f ∈ fs, f.2.IsJson

namespace IsJson

theorem nil : IsJson [] := List.forall_mem_nil _

theorem of_object (h : (Value.object fs).IsJson) : IsJson fs := by
  cases h with
  | scalar h => cases h
  | object h => exact h

theorem get? (h : fs.IsJson) {name : String} {v : Value} (hv : fs.get? name = some v) : v.IsJson :=
  h _ (mem_of_lookup hv)

theorem update (h : fs.IsJson) (hoverlay : overlay.IsJson) : (fs.update overlay).IsJson :=
  fun f hf => (of_mem_update hf).elim (h f) (hoverlay f)

end IsJson

end Fields

end MetricLayer
