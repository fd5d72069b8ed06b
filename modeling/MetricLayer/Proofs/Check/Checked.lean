import MetricLayer.Check.Reader

/-!
# Checks that passed

A combination of checks passes exactly when each of them does.
-/

namespace MetricLayer.Checked

variable {α β : Type}

theorem map_eq_valid {f : α → β} {c : Checked α} {b : β} :
    f <$> c = .valid b ↔ ∃ a, c = .valid a ∧ f a = b := by
  cases c with
  | valid a =>
    constructor
    · intro h
      exact ⟨a, rfl, valid.inj h⟩
    · rintro ⟨_, ha, rfl⟩
      cases ha
      rfl
  | invalid issues =>
    constructor
    · intro h
      cases h
    · rintro ⟨_, h, -⟩
      cases h

theorem seq_eq_valid {f : Checked (α → β)} {c : Checked α} {b : β} :
    f <*> c = .valid b ↔ ∃ g a, f = .valid g ∧ c = .valid a ∧ g a = b := by
  cases f with
  | valid g =>
    cases c with
    | valid a =>
      constructor
      · intro h
        exact ⟨g, a, rfl, rfl, valid.inj h⟩
      · rintro ⟨_, _, hg, ha, rfl⟩
        cases hg
        cases ha
        rfl
    | invalid issues =>
      constructor
      · intro h
        cases h
      · rintro ⟨_, _, -, h, -⟩
        cases h
  | invalid issues =>
    constructor
    · intro h
      cases c <;> cases h
    · rintro ⟨_, _, h, -, -⟩
      cases h

theorem under_eq_valid {step : PathStep} {c : Checked α} {a : α} :
    c.under step = .valid a ↔ c = .valid a := by
  cases c with
  | valid b => rfl
  | invalid issues => constructor <;> intro h <;> cases h

end MetricLayer.Checked

namespace MetricLayer.Reader

variable {α : Type} {fs : Fields} {name : String} {reader : Reader α} {a : α}

/-- An optional field is the default, or it was read. -/
theorem optional_eq_valid {default : α} (h : optional fs name default reader = .valid a) :
    a = default ∨ ∃ v, fs.get? name = some v ∧ reader v = .valid a := by
  unfold optional at h
  split at h
  · next v hv => exact .inr ⟨v, hv, Checked.under_eq_valid.1 h⟩
  · exact .inl (Checked.valid.inj h).symm

/-- A field that has to be there was read. -/
theorem required_eq_valid (h : required fs name reader = .valid a) :
    ∃ v, fs.get? name = some v ∧ reader v = .valid a := by
  unfold required at h
  split at h
  · next v hv => exact ⟨v, hv, Checked.under_eq_valid.1 h⟩
  · cases h

/-- Each of the items was read. -/
theorem items_eq_valid {i : Nat} {vs : List Value} {as : List α}
    (h : items reader i vs = .valid as) : ∀ a ∈ as, ∃ v ∈ vs, reader v = .valid a := by
  induction vs generalizing i as with
  | nil =>
    cases h
    simp
  | cons v vs ih =>
    obtain ⟨_, rest, hfirst, hrest, rfl⟩ := Checked.seq_eq_valid.1 h
    obtain ⟨a, ha, rfl⟩ := Checked.map_eq_valid.1 hfirst
    intro b hb
    rcases List.mem_cons.1 hb with rfl | hb
    · exact ⟨v, List.mem_cons_self, Checked.under_eq_valid.1 ha⟩
    · obtain ⟨u, hu, hread⟩ := ih hrest b hb
      exact ⟨u, List.mem_cons_of_mem _ hu, hread⟩

/-- Each item of a list was read. -/
theorem listOf_eq_valid {v : Value} {as : List α} (h : listOf reader v = .valid as) :
    ∀ a ∈ as, ∃ u, reader u = .valid a := by
  unfold listOf at h
  split at h
  · exact fun a ha => (items_eq_valid h a ha).imp fun _ hu => hu.2
  · cases h

theorem nonemptyListOf_eq_valid {v : Value} {as : List α}
    (h : nonemptyListOf reader v = .valid as) : as ≠ [] := by
  unfold nonemptyListOf at h
  cases hlist : listOf reader v with
  | invalid issues =>
    rw [hlist] at h
    cases h
  | valid bs =>
    rw [hlist, Checked.andThen] at h
    split at h
    · cases h
    · next hne =>
      obtain rfl := Checked.valid.inj h
      rintro rfl
      exact hne rfl

/-- Items that were made from what the reader reads are read as that. -/
theorem items_map {f : α → Value} (h : ∀ a, reader (f a) = .valid a) (i : Nat) (as : List α) :
    items reader i (as.map f) = .valid as := by
  induction as generalizing i with
  | nil => rfl
  | cons a as ih =>
    rw [List.map_cons, items, h, ih]
    rfl

end MetricLayer.Reader
