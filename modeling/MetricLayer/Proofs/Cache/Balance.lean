import MetricLayer.Proofs.Cache.Recency

/-!
# The books of a cache

An entry comes into a cache by a put on a key that has none, and leaves it in one of six ways: it
makes room for another one, a lookup finds it stale, or one of the four calls that drop entries
drops it.  The cache counts the first kind, its caller sees the second as a miss, and the calls of
the third kind say how many entries they dropped.

Over every run the two sides agree (`cache_accounts_balance`): all entries that came are still there
or are accounted for, and every lookup is a hit or a miss.  `CacheEvent.entries_balance` is the step:
a put on a key that has an entry replaces it and counts on neither side.
-/

namespace MetricLayer

variable {τ α : Type}

/-! ## How many entries there are -/

namespace ResultCache

variable {c : ResultCache τ α} {key : String} {entries : List (String × CacheEntry τ α)}

theorem mem_keys_of_lookup {e : CacheEntry τ α} (h : c.entries.lookup key = some e) :
    key ∈ c.keys :=
  List.mem_map_of_mem (mem_of_lookup h)

theorem without_of_notMem (h : key ∉ entries.map Prod.fst) : without key entries = entries := by
  refine List.filter_eq_self.2 fun p hp => decide_eq_true ?_
  exact fun hkey => h (hkey ▸ List.mem_map_of_mem hp)

/-- A key has one entry, so one less is left without it. -/
theorem length_without_of_mem (hnodup : (entries.map Prod.fst).Nodup)
    (h : key ∈ entries.map Prod.fst) : (without key entries).length + 1 = entries.length := by
  obtain ⟨⟨k, e⟩, hmem, rfl⟩ := List.mem_map.1 h
  obtain ⟨older, newer, rfl⟩ := List.append_of_mem hmem
  rw [List.map_append, List.map_cons, List.nodup_middle, List.nodup_cons, List.mem_append,
    not_or] at hnodup
  obtain ⟨⟨holder, hnewer⟩, -⟩ := hnodup
  have hsplit : without k (older ++ (k, e) :: newer) = without k older ++ without k newer := by
    simp [without]
  rw [hsplit, without_of_notMem holder, without_of_notMem hnewer]
  simp only [List.length_append, List.length_cons]
  omega

/-- The entries stay or make room. -/
theorem length_makeRoom (maxSize : Int) (entries : List (String × CacheEntry τ α)) :
    (makeRoom maxSize entries).1.length + (makeRoom maxSize entries).2 = entries.length := by
  induction entries with
  | nil => rfl
  | cons e rest ih =>
    rw [makeRoom]
    split
    · rw [List.length_cons, ← ih, Nat.add_assoc]
    · rfl

/-- The entries stay or are reported as dropped. -/
theorem length_keep (c : ResultCache τ α) (p : String → CacheEntry τ α → Bool) :
    (c.keep p).2.entries.length + (c.keep p).1 = c.entries.length :=
  Nat.add_sub_of_le (List.length_filter_le _ _)

end ResultCache

/-! ## What a call adds to the books -/

namespace CacheEvent

variable [Add τ] [LE τ] [DecidableLE τ] {e : CacheEvent τ α}

/-- The call is a lookup. -/
def isLookup (e : CacheEvent τ α) : Bool :=
  match e.call with
  | .get _ => true
  | _ => false

/-- The call puts a result under a key that has none. -/
def addsKey (e : CacheEvent τ α) : Bool :=
  match e.call with
  | .put key _ _ => !e.before.keys.contains key
  | _ => false

/-- The call is a lookup that finds a stale entry. -/
def findsStale (e : CacheEvent τ α) : Bool :=
  match e.call with
  | .get key => (e.before.entries.lookup key).any (ResultCache.isExpired e.now)
  | _ => false

/-- The number of entries that the call says it dropped. -/
def reported (e : CacheEvent τ α) : Nat :=
  match e.call with
  | .invalidate key => (e.before.invalidate key).1
  | .clear => e.before.clear.1
  | .invalidateTag tag => (e.before.invalidateTag tag).1
  | .cleanup => (e.before.cleanup e.now).1
  | _ => 0

/-- No call gives a key two entries. -/
theorem nodup_after (hnodup : e.before.keys.Nodup) : e.after.keys.Nodup := by
  rcases e.keys_after with ⟨-, hkeys⟩ | ⟨key, kept, -, hkept, hkey, hkeys⟩
  · exact hnodup.sublist hkeys
  · rw [hkeys, List.nodup_append]
    refine ⟨hnodup.sublist hkept, List.nodup_singleton _, fun k hk k' hk' heq => hkey ?_⟩
    rw [← List.mem_singleton.1 hk', ← heq]
    exact hk

/-- A lookup is a hit or a miss, and nothing else is. -/
theorem lookups_balance (e : CacheEvent τ α) : e.after.hits + e.after.misses
    = e.before.hits + e.before.misses + if e.isLookup then 1 else 0 := by
  obtain ⟨c, now, call⟩ := e
  cases call with
  | get key =>
    show (c.get now key).2.hits + (c.get now key).2.misses = c.hits + c.misses + 1
    unfold ResultCache.get
    split
    · rfl
    · split
      · rfl
      · exact Nat.add_right_comm _ _ _
  | _ => rfl

omit [Add τ] in
/-- A lookup takes the entry out that it finds stale, and no other. -/
theorem get_balance {c : ResultCache τ α} (hnodup : c.keys.Nodup) (now : τ) (key : String) :
    (c.get now key).2.entries.length + (c.get now key).2.evictions
        + (if (c.entries.lookup key).any (ResultCache.isExpired now) then 1 else 0)
      = c.entries.length + c.evictions := by
  unfold ResultCache.get
  split
  · next hnone =>
    rw [hnone]
    rfl
  · next entry hfound =>
    have hlength := ResultCache.length_without_of_mem hnodup (ResultCache.mem_keys_of_lookup hfound)
    rw [hfound, Option.any_some]
    split
    · rw [← hlength]
      exact Nat.add_right_comm _ _ _
    · rw [List.length_append, ← hlength]
      rfl

omit [LE τ] [DecidableLE τ] in
/-- A put adds an entry, and takes out the one under its key and those that make room. -/
theorem put_balance {c : ResultCache τ α} (hnodup : c.keys.Nodup) (now : τ) (key : String)
    (value : α) (tags : List (Option String)) :
    (c.put now key value tags).entries.length + (c.put now key value tags).evictions
      = c.entries.length + c.evictions + if !c.keys.contains key then 1 else 0 := by
  have hroom := ResultCache.length_makeRoom c.maxSize (ResultCache.without key c.entries)
  have hlength : (c.put now key value tags).entries.length
      = (ResultCache.makeRoom c.maxSize (ResultCache.without key c.entries)).1.length + 1 :=
    List.length_append
  have hevictions : (c.put now key value tags).evictions
      = c.evictions + (ResultCache.makeRoom c.maxSize (ResultCache.without key c.entries)).2 := rfl
  rw [hlength, hevictions]
  by_cases hkey : key ∈ c.keys
  · have hwithout := ResultCache.length_without_of_mem hnodup hkey
    rw [if_neg (by simpa using hkey)]
    omega
  · rw [ResultCache.without_of_notMem hkey] at hroom ⊢
    rw [if_pos (by simpa using hkey)]
    omega

omit [Add τ] [LE τ] [DecidableLE τ] in
/-- What is dropped is reported. -/
theorem keep_balance (c : ResultCache τ α) (p : String → CacheEntry τ α → Bool) :
    (c.keep p).2.entries.length + (c.keep p).2.evictions + (c.keep p).1
      = c.entries.length + c.evictions := by
  rw [Nat.add_right_comm, ResultCache.length_keep]
  rfl

/-- What comes into the cache by a call and what was there is there afterwards, or it is accounted
for. -/
theorem entries_balance (hnodup : e.before.keys.Nodup) :
    e.after.entries.length + e.after.evictions + e.reported + (if e.findsStale then 1 else 0)
      = e.before.entries.length + e.before.evictions + if e.addsKey then 1 else 0 := by
  obtain ⟨c, now, call⟩ := e
  cases call with
  | get key => exact get_balance hnodup now key
  | put key value tags => exact put_balance hnodup now key value tags
  | invalidate key => exact keep_balance c fun k _ => k ≠ key
  | clear => exact keep_balance c fun _ _ => false
  | invalidateTag tag => exact keep_balance c fun _ e => !e.tags.contains tag
  | cleanup => exact keep_balance c fun _ e => !ResultCache.isExpired now e

end CacheEvent

/-! ## What a run adds to the books -/

section Runs

variable [Add τ] [LE τ] [DecidableLE τ] {ttl : τ} {maxSize : Int} {log : List (CacheEvent τ α)}
  {c : ResultCache τ α}

theorem CacheRun.nodup (h : CacheRun (.empty ttl maxSize) log c) : c.keys.Nodup := by
  induction h with
  | start => exact List.nodup_nil
  | call _ now _ call ih => exact CacheEvent.nodup_after (e := ⟨_, now, call⟩) ih

/-- **The books of a cache balance.**  After every run its hits and misses are as many as there were
lookups, and the puts on keys without an entry are as many as the entries that are there, those that
made room, those that were reported as dropped and those that lookups found stale. -/
theorem cache_accounts_balance (h : CacheRun (.empty ttl maxSize) log c) :
    c.hits + c.misses = log.countP CacheEvent.isLookup
      ∧ log.countP CacheEvent.addsKey = c.entries.length + c.evictions
        + (log.map CacheEvent.reported).sum + log.countP CacheEvent.findsStale := by
  induction h with
  | start => exact ⟨rfl, rfl⟩
  | @call log c h now _ call ih =>
    obtain ⟨hlookups, hentries⟩ := ih
    have hlookup := CacheEvent.lookups_balance ⟨c, now, call⟩
    have hentry := CacheEvent.entries_balance (e := ⟨c, now, call⟩) h.nodup
    simp only [CacheEvent.after] at hlookup hentry
    simp only [List.countP_append, List.countP_singleton, List.map_append, List.map_singleton,
      List.sum_append, List.sum_singleton]
    omega

end Runs

/-- A cache with room for one result: a put replaces the result of its key, another put takes its
room, a lookup finds that one stale, and all is dropped after a last one was found. -/
theorem busyCache_balance :
    ∃ log c, CacheRun (.empty 10 1 : ResultCache Int Nat) log c
      ∧ log.map CacheEvent.call = [.put "orders" 7 [], .put "orders" 8 [], .put "refunds" 3 [],
        .get "refunds", .put "visits" 5 [], .get "visits", .clear]
      ∧ log.map CacheEvent.addsKey = [true, false, true, false, true, false, false]
      ∧ c.hits = 1 ∧ c.misses = 1 ∧ c.evictions = 1 ∧ c.entries.length = 0
      ∧ c.hits + c.misses = log.countP CacheEvent.isLookup
      ∧ log.countP CacheEvent.addsKey = c.entries.length + c.evictions
        + (log.map CacheEvent.reported).sum + log.countP CacheEvent.findsStale := by
  have hfirst : CacheRun (.empty 10 1 : ResultCache Int Nat) _ _ :=
    .call (.call .start 0 (by decide) (.put "orders" 7 [])) 1 (by decide) (.put "orders" 8 [])
  have hstale := (hfirst.call 2 (by decide) (.put "refunds" 3 [])).call 12 (by decide)
    (.get "refunds")
  have hrun := ((hstale.call 12 (by decide) (.put "visits" 5 [])).call 13 (by decide)
    (.get "visits")).call 13 (by decide) .clear
  have hbalance := cache_accounts_balance hrun
  exact ⟨_, _, hrun, rfl, by decide, by decide, by decide, by decide, by decide, hbalance.1,
    hbalance.2⟩

end MetricLayer
