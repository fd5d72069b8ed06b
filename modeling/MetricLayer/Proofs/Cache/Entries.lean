import MetricLayer.Cache.ResultCache
import MetricLayer.Proofs.Value.Fields

/-!
# Where the entries of a cache come from

No operation of the cache invents an entry or changes one: what is in the cache afterwards was in it
before, or it is the entry that was put (`mem_get`, `mem_put`, `mem_keep`).
-/

namespace MetricLayer.ResultCache

variable {τ α : Type} {c : ResultCache τ α} {now : τ} {key : String} {p : String × CacheEntry τ α}

theorem mem_without {entries : List (String × CacheEntry τ α)} :
    p ∈ without key entries ↔ p ∈ entries ∧ p.1 ≠ key := by
  rw [without, List.mem_filter, decide_eq_true_eq]

theorem mem_makeRoom {maxSize : Int} {entries : List (String × CacheEntry τ α)}
    (h : p ∈ (makeRoom maxSize entries).1) : p ∈ entries := by
  induction entries with
  | nil => exact h
  | cons e rest ih =>
    rw [makeRoom] at h
    split at h
    · exact List.mem_cons_of_mem e (ih h)
    · exact h

section Lookup

variable [LE τ] [DecidableLE τ]

/-- What a lookup finds is the value of an entry under the key. -/
theorem exists_of_get {value : α} {c' : ResultCache τ α} (h : c.get now key = (some value, c')) :
    ∃ e, (key, e) ∈ c.entries ∧ e.value = value := by
  unfold get at h
  split at h
  · cases h
  · next e hfound =>
    split at h
    · cases h
    · cases h
      exact ⟨e, mem_of_lookup hfound, rfl⟩

theorem mem_get (h : p ∈ (c.get now key).2.entries) : p ∈ c.entries := by
  unfold get at h
  split at h
  · exact h
  · next e hfound =>
    split at h
    · exact (mem_without.1 h).1
    · rcases List.mem_append.1 h with h | h
      · exact (mem_without.1 h).1
      · rw [List.mem_singleton.1 h]
        exact mem_of_lookup hfound

theorem ttl_get (c : ResultCache τ α) (now : τ) (key : String) : (c.get now key).2.ttl = c.ttl := by
  unfold get
  split
  · rfl
  · split <;> rfl

end Lookup

theorem mem_put [Add τ] {value : α} {tags : List (Option String)}
    (h : p ∈ (c.put now key value tags).entries) :
    p ∈ c.entries
      ∨ p = (key, ⟨value, now + c.ttl, (tags.filterMap id).filter (· ≠ "")⟩) := by
  rcases List.mem_append.1 h with h | h
  · exact .inl (mem_without.1 (mem_makeRoom h)).1
  · exact .inr (List.mem_singleton.1 h)

/-- What was put is found until it expires. -/
theorem get_put [Add τ] [LE τ] [DecidableLE τ] (c : ResultCache τ α) (key : String) (value : α)
    (tags : List (Option String)) {now later : τ} (hlive : ¬now + c.ttl ≤ later) :
    ((c.put now key value tags).get later key).1 = some value := by
  have hothers : (makeRoom c.maxSize (without key c.entries)).1.lookup key = none := by
    rw [List.lookup_eq_none_iff]
    intro p hp
    exact bne_iff_ne.2 (Ne.symm (mem_without.1 (mem_makeRoom hp)).2)
  have hfound : (c.put now key value tags).entries.lookup key
      = some ⟨value, now + c.ttl, (tags.filterMap id).filter (· ≠ "")⟩ := by
    show List.lookup key (_ ++ [_]) = _
    rw [List.lookup_append, hothers, Option.none_or, List.lookup_cons_self]
  have hfresh : isExpired later
      (⟨value, now + c.ttl, (tags.filterMap id).filter (· ≠ "")⟩ : CacheEntry τ α) = false :=
    decide_eq_false hlive
  unfold get
  rw [hfound]
  dsimp only
  rw [hfresh]
  rfl

theorem mem_keep {q : String → CacheEntry τ α → Bool} :
    p ∈ (c.keep q).2.entries ↔ p ∈ c.entries ∧ q p.1 p.2 = true := List.mem_filter

theorem mem_invalidateTag {tag : String} :
    p ∈ (c.invalidateTag tag).2.entries ↔ p ∈ c.entries ∧ tag ∉ p.2.tags := by
  rw [invalidateTag, mem_keep, Bool.not_eq_true', List.contains_eq_mem, decide_eq_false_iff_not]

theorem entries_clear (c : ResultCache τ α) : c.clear.2.entries = [] :=
  List.filter_eq_nil_iff.2 fun _ _ h => by cases h

/-! ## Values in another form -/

section Values

variable {β : Type} (f : α → β)

/-- The entry with its value in another form. -/
def mapEntry (p : String × CacheEntry τ α) : String × CacheEntry τ β :=
  (p.1, ⟨f p.2.value, p.2.expires, p.2.tags⟩)

/-- The cache with its values in another form. -/
def mapValues (c : ResultCache τ α) : ResultCache τ β :=
  ⟨c.ttl, c.maxSize, c.entries.map (mapEntry f), c.hits, c.misses, c.evictions⟩

theorem lookup_mapEntry (entries : List (String × CacheEntry τ α)) (key : String) :
    (entries.map (mapEntry f)).lookup key
      = (entries.lookup key).map fun e => (mapEntry f (key, e)).2 := by
  induction entries with
  | nil => rfl
  | cons p rest ih =>
    obtain ⟨k, e⟩ := p
    rw [List.map_cons, mapEntry, List.lookup_cons, List.lookup_cons]
    cases key == k
    · exact ih
    · rfl

theorem without_mapEntry (key : String) (entries : List (String × CacheEntry τ α)) :
    without key (entries.map (mapEntry f)) = (without key entries).map (mapEntry f) := by
  rw [without, List.filter_map]
  rfl

theorem makeRoom_mapEntry (maxSize : Int) (entries : List (String × CacheEntry τ α)) :
    makeRoom maxSize (entries.map (mapEntry f))
      = ((makeRoom maxSize entries).1.map (mapEntry f), (makeRoom maxSize entries).2) := by
  induction entries with
  | nil => rfl
  | cons p rest ih =>
    rw [List.map_cons, makeRoom, makeRoom, List.length_map, ih]
    split <;> rfl

/-- The cache never looks at its values: a lookup finds the same in another form. -/
theorem get_mapValues [LE τ] [DecidableLE τ] (c : ResultCache τ α) (now : τ) (key : String) :
    (c.mapValues f).get now key = ((c.get now key).1.map f, (c.get now key).2.mapValues f) := by
  unfold get
  rw [show (c.mapValues f).entries = c.entries.map (mapEntry f) from rfl, lookup_mapEntry]
  cases c.entries.lookup key with
  | none => rfl
  | some e =>
    have hexpired : isExpired now (mapEntry f (key, e)).2 = isExpired now e := rfl
    simp only [Option.map_some, hexpired, without_mapEntry]
    split
    · rfl
    · simp [mapValues, mapEntry]

theorem put_mapValues [Add τ] (c : ResultCache τ α) (now : τ) (key : String) (value : α)
    (tags : List (Option String)) :
    (c.mapValues f).put now key (f value) tags = (c.put now key value tags).mapValues f := by
  unfold put
  rw [show (c.mapValues f).entries = c.entries.map (mapEntry f) from rfl, without_mapEntry,
    show (c.mapValues f).maxSize = c.maxSize from rfl, makeRoom_mapEntry]
  simp [mapValues, mapEntry]

theorem invalidateTag_mapValues (c : ResultCache τ α) (tag : String) :
    ((c.mapValues f).invalidateTag tag).2 = (c.invalidateTag tag).2.mapValues f := by
  unfold invalidateTag keep mapValues
  rw [List.filter_map]
  rfl

end Values

end MetricLayer.ResultCache
