import MetricLayer.Proofs.Cache.Recency

/-!
# How many entries a cache holds

Room is made before an entry is put, and then the entry is put whatever room there is.  So a cache
holds as many entries as its limit allows, but one also when the limit is zero or less
(`ResultCache.capacity`).  `ResultCache.length_put` counts the entries after a put, and no other call
adds any, so every run keeps within the capacity (`runAll_within_capacity`).  Nothing is assumed of
the clock.

A limit is therefore kept if it is positive, and a limit that should allow no entry allows the one
that was put last (`cache_limit_kept`).
-/

namespace MetricLayer

variable {τ α : Type}

namespace ResultCache

/-- The number of entries that a cache with the limit has place for. -/
def capacity (maxSize : Int) : Nat := (max maxSize 1).toNat

/-- When room is made, the entries that stay leave place for one more. -/
theorem length_makeRoom_fst (maxSize : Int) (entries : List (String × CacheEntry τ α)) :
    (makeRoom maxSize entries).1.length = min entries.length (capacity maxSize - 1) := by
  induction entries with
  | nil => exact (Nat.zero_min _).symm
  | cons e rest ih =>
    rw [makeRoom]
    unfold capacity at ih ⊢
    split
    · rw [ih, List.length_cons]
      omega
    · rw [List.length_cons]
      omega

/-- A put adds one entry to those under other keys, as far as there is place. -/
theorem length_put [Add τ] (c : ResultCache τ α) (now : τ) (key : String) (value : α)
    (tags : List (Option String)) : (c.put now key value tags).entries.length
      = min ((without key c.entries).length + 1) (capacity c.maxSize) := by
  have hlength : (c.put now key value tags).entries.length
      = (makeRoom c.maxSize (without key c.entries)).1.length + 1 := List.length_append
  rw [hlength, length_makeRoom_fst]
  unfold capacity
  omega

/-- A lookup adds no entry. -/
theorem length_get_le [LE τ] [DecidableLE τ] (c : ResultCache τ α) (now : τ) (key : String) :
    (c.get now key).2.entries.length ≤ c.entries.length := by
  unfold get
  split
  · exact Nat.le_refl _
  · next e hfound =>
    have hless : (without key c.entries).length < c.entries.length :=
      List.length_filter_lt_length_iff_exists.2 ⟨(key, e), mem_of_lookup hfound, by simp⟩
    split
    · exact Nat.le_of_lt hless
    · rw [List.length_append]
      exact hless

end ResultCache

open ResultCache

variable [Add τ] [LE τ] [DecidableLE τ]

/-- A call keeps within the capacity. -/
theorem CacheCall.length_run_le {c : ResultCache τ α}
    (h : c.entries.length ≤ capacity c.maxSize) (now : τ) (call : CacheCall α) :
    (call.run c now).entries.length ≤ capacity c.maxSize := by
  cases call with
  | get key => exact Nat.le_trans (c.length_get_le now key) h
  | put key value tags =>
    show (c.put now key value tags).entries.length ≤ _
    rw [length_put]
    exact Nat.min_le_right _ _
  | _ => exact Nat.le_trans (List.length_filter_le _ _) h

/-- The cache after calls, each made at a time of its own. -/
def runAll (c : ResultCache τ α) (calls : List (τ × CacheCall α)) : ResultCache τ α :=
  calls.foldl (fun c call => call.2.run c call.1) c

/-- A run from a cache within its capacity stays within it. -/
theorem runAll_within_capacity {c : ResultCache τ α} (h : c.entries.length ≤ capacity c.maxSize)
    (calls : List (τ × CacheCall α)) :
    (runAll c calls).maxSize = c.maxSize
      ∧ (runAll c calls).entries.length ≤ capacity c.maxSize := by
  induction calls generalizing c with
  | nil => exact ⟨rfl, h⟩
  | cons call calls ih =>
    have hmax : (call.2.run c call.1).maxSize = c.maxSize :=
      CacheEvent.maxSize_after (e := ⟨c, call.1, call.2⟩)
    have hstep := call.2.length_run_le h call.1
    rw [← hmax] at hstep ⊢
    exact ih hstep

/-- A cache with a positive limit never holds more entries than that.  With a limit of zero or less
it never holds more than one, and after each put it holds just the entry that was put. -/
theorem cache_limit_kept (ttl : τ) (maxSize : Int) (calls : List (τ × CacheCall α)) :
    (1 ≤ maxSize → ((runAll (.empty ttl maxSize) calls).entries.length : Int) ≤ maxSize)
      ∧ (maxSize ≤ 0 → (runAll (.empty ttl maxSize) calls).entries.length ≤ 1
        ∧ ∀ now key value tags,
          (runAll (.empty ttl maxSize) (calls ++ [(now, .put key value tags)])).keys = [key]) := by
  obtain ⟨hmax, hlength⟩ :=
    runAll_within_capacity (c := (.empty ttl maxSize : ResultCache τ α)) (Nat.zero_le _) calls
  have hcapacity : capacity (ResultCache.empty ttl maxSize : ResultCache τ α).maxSize
      = (max maxSize 1).toNat := rfl
  rw [hcapacity] at hlength
  refine ⟨fun hpos => by omega, fun hnone => ⟨by omega, fun now key value tags => ?_⟩⟩
  have hput : runAll (.empty ttl maxSize) (calls ++ [(now, .put key value tags)])
      = (runAll (.empty ttl maxSize) calls).put now key value tags := by
    rw [runAll, List.foldl_append]
    rfl
  -- no entry stays when room is made
  have hroom := length_makeRoom_fst (runAll (.empty ttl maxSize) calls).maxSize
    (without key (runAll (.empty ttl maxSize) calls).entries)
  have hone : capacity (runAll (.empty ttl maxSize) calls).maxSize = 1 := by
    rw [hmax, hcapacity]
    omega
  rw [hone, Nat.sub_self, Nat.min_zero, List.length_eq_zero_iff] at hroom
  rw [hput, keys, put, hroom]
  rfl

/-- A limit of zero does not turn the cache off: what was put is there and is found. -/
theorem zeroLimit_holds_entry :
    let c : ResultCache Int Nat := runAll (.empty 60 0) [(0, .put "orders" 7 [])]
    ¬(c.entries.length : Int) ≤ 0 ∧ (c.get 0 "orders").1 = some 7 := by
  decide

end MetricLayer
