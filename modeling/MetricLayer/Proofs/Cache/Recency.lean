import MetricLayer.Proofs.Cache.Entries
import Mathlib.Data.List.DropRight
import Mathlib.Tactic

/-!
# What a cache remembers

A run of a cache is a sequence of calls on a clock that never goes back (`CacheRun`).  Its log says
which results should be found: that of the latest put on a key, until its lifetime is over or
something drops it (`Latest`), and as long as fewer other keys than the cache has room for were used
since the key was (`usedSince`).

The cache finds nothing else and it finds all of these (`get_finds_latest_put`).  The invariant is
`Remembers`: every entry is that of the latest put on its key, each entry was used after those that
stand before it, and what should be found is there.  Nothing is assumed of the addition of times, so
it may round.
-/

namespace MetricLayer

open scoped List

variable {τ α : Type}

/-! ## Calls and runs -/

/-- A call of a cache. -/
inductive CacheCall (α : Type) where
  /-- Looks a key up. -/
  | get (key : String)
  /-- Stores a result under a key. -/
  | put (key : String) (value : α) (tags : List (Option String))
  /-- Drops the entry under a key. -/
  | invalidate (key : String)
  /-- Drops all entries. -/
  | clear
  /-- Drops the entries with a tag. -/
  | invalidateTag (tag : String)
  /-- Drops the stale entries. -/
  | cleanup

namespace CacheCall

/-- The cache after a call. -/
def run [Add τ] [LE τ] [DecidableLE τ] (c : ResultCache τ α) (now : τ) :
    CacheCall α → ResultCache τ α
  | get key => (c.get now key).2
  | put key value tags => c.put now key value tags
  | invalidate key => (c.invalidate key).2
  | clear => c.clear.2
  | invalidateTag tag => (c.invalidateTag tag).2
  | cleanup => (c.cleanup now).2

/-- The call puts an end to what was put under the key with the tags: another result is put in its
place, or it is dropped.  A lookup and the removal of stale entries do not. -/
def Ends (key : String) (tags : List (Option String)) : CacheCall α → Prop
  | get _ => False
  | put k _ _ => k = key
  | invalidate k => k = key
  | clear => True
  | invalidateTag tag => tag ≠ "" ∧ some tag ∈ tags
  | cleanup => False

end CacheCall

/-- A call, and the cache and the time that it meets. -/
structure CacheEvent (τ α : Type) where
  /-- The cache before the call. -/
  before : ResultCache τ α
  /-- The time of the call. -/
  now : τ
  /-- The call. -/
  call : CacheCall α

namespace CacheEvent

variable [Add τ] [LE τ] [DecidableLE τ]

/-- The cache after the call. -/
def after (e : CacheEvent τ α) : ResultCache τ α := e.call.run e.before e.now

/-- The key that the call used: the one it put something under, or the one it found. -/
def used? (e : CacheEvent τ α) : Option String :=
  match e.call with
  | .get key => if (e.before.get e.now key).1.isSome then some key else none
  | .put key _ _ => some key
  | _ => none

/-- The entry that the call puts, when it puts the result with the tags. -/
def entry (ttl : τ) (e : CacheEvent τ α) (value : α) (tags : List (Option String)) :
    CacheEntry τ α :=
  ⟨value, e.now + ttl, (tags.filterMap id).filter (· ≠ "")⟩

end CacheEvent

/-- The calls of a run so far, and the cache after them. -/
inductive CacheRun [Add τ] [LE τ] [DecidableLE τ] (start : ResultCache τ α) :
    List (CacheEvent τ α) → ResultCache τ α → Prop
  | start : CacheRun start [] start
  | call {log : List (CacheEvent τ α)} {c : ResultCache τ α} (h : CacheRun start log c) (now : τ)
      (hclock : ∀ e ∈ log, e.now ≤ now) (call : CacheCall α) :
      CacheRun start (log ++ [⟨c, now, call⟩]) (call.run c now)

/-! ## What should be found -/

/-- The event `put` is the latest put on the key; it stored the value with the tags, and nothing after
it put an end to that. -/
def Latest (log : List (CacheEvent τ α)) (put : CacheEvent τ α) (key : String) (value : α)
    (tags : List (Option String)) : Prop :=
  ∃ before later, log = before ++ put :: later ∧ put.call = .put key value tags
    ∧ ∀ e ∈ later, ¬e.call.Ends key tags

/-- The keys that were used since the key was used last. -/
def usedSince [Add τ] [LE τ] [DecidableLE τ] (key : String) (log : List (CacheEvent τ α)) :
    Finset String :=
  ((log.rtakeWhile fun e => e.used? ≠ some key).filterMap CacheEvent.used?).toFinset

theorem latest_concat {log : List (CacheEvent τ α)} {e put : CacheEvent τ α} {key : String}
    {value : α} {tags : List (Option String)} :
    Latest (log ++ [e]) put key value tags
      ↔ e = put ∧ e.call = .put key value tags
        ∨ Latest log put key value tags ∧ ¬e.call.Ends key tags := by
  constructor
  · rintro ⟨before, later, hlog, hcall, hlater⟩
    rcases List.eq_nil_or_concat later with rfl | ⟨later, last, rfl⟩
    · obtain ⟨-, hlast⟩ := List.append_inj' hlog rfl
      cases hlast
      exact .inl ⟨rfl, hcall⟩
    · rw [List.concat_eq_append, ← List.cons_append, ← List.append_assoc] at hlog
      obtain ⟨rfl, hlast⟩ := List.append_inj' hlog rfl
      cases hlast
      exact .inr ⟨⟨before, later, rfl, hcall, fun f hf => hlater f (by simp [hf])⟩,
        hlater e (by simp)⟩
  · rintro (⟨rfl, hcall⟩ | ⟨⟨before, later, rfl, hcall, hlater⟩, hlast⟩)
    · exact ⟨log, [], rfl, hcall, List.forall_mem_nil _⟩
    · refine ⟨before, later ++ [e], by simp, hcall, ?_⟩
      exact List.forall_mem_append.2 ⟨hlater, List.forall_mem_singleton.2 hlast⟩

section UsedSince

variable [Add τ] [LE τ] [DecidableLE τ] {log : List (CacheEvent τ α)} {e : CacheEvent τ α}
  {key other : String}

theorem usedSince_other (h : e.used? = some other) (hne : other ≠ key) :
    usedSince key (log ++ [e]) = insert other (usedSince key log) := by
  rw [usedSince, List.rtakeWhile_concat_pos]
  · rw [List.filterMap_append, List.toFinset_append, Finset.union_comm]
    simp [h, usedSince]
  · simp [h, hne]

theorem usedSince_unused (h : e.used? = none) : usedSince key (log ++ [e]) = usedSince key log := by
  rw [usedSince, List.rtakeWhile_concat_pos]
  · simp [h, usedSince]
  · simp [h]

theorem usedSince_subset (h : e.used? ≠ some key) :
    usedSince key log ⊆ usedSince key (log ++ [e]) := by
  rcases hused : e.used? with _ | other
  · rw [usedSince_unused hused]
  · rw [usedSince_other hused fun heq => h (by rw [hused, heq])]
    exact Finset.subset_insert _ _

/-- A key was not used since it was used last. -/
theorem not_mem_usedSince : key ∉ usedSince key log := by
  intro h
  obtain ⟨e, he, hused⟩ := List.mem_filterMap.1 (List.mem_toFinset.1 h)
  simpa [hused] using List.mem_rtakeWhile_imp he

end UsedSince

/-- There is one latest put on a key. -/
theorem Latest.unique {log : List (CacheEvent τ α)} {put put' : CacheEvent τ α} {key : String}
    {value value' : α} {tags tags' : List (Option String)} (h : Latest log put key value tags)
    (h' : Latest log put' key value' tags') : put = put' ∧ value = value' ∧ tags = tags' := by
  induction log using List.reverseRecOn with
  | nil =>
    obtain ⟨before, later, hlog, -, -⟩ := h
    simp at hlog
  | append_singleton log e ih =>
    rcases latest_concat.1 h with ⟨rfl, hcall⟩ | ⟨h, hlast⟩ <;>
      rcases latest_concat.1 h' with ⟨rfl, hcall'⟩ | ⟨h', hlast'⟩
    · rw [hcall] at hcall'
      cases hcall'
      exact ⟨rfl, rfl, rfl⟩
    · exact absurd (by rw [hcall]; rfl) hlast'
    · exact absurd (by rw [hcall']; rfl) hlast
    · exact ih h h'

/-! ## What one call does to the entries -/

namespace ResultCache

variable {c : ResultCache τ α} {key : String}

theorem lookup_of_mem {e : CacheEntry τ α} (hnodup : c.keys.Nodup) (h : (key, e) ∈ c.entries) :
    c.entries.lookup key = some e := by
  obtain ⟨older, newer, hentries⟩ := List.append_of_mem h
  rw [keys, hentries, List.map_append, List.map_cons, List.nodup_append] at hnodup
  refine List.lookup_eq_some_iff.2 ⟨older, newer, hentries, fun p hp => ?_⟩
  have hne := hnodup.2.2 p.1 (List.mem_map_of_mem hp) key List.mem_cons_self
  exact bne_iff_ne.2 hne.symm

/-- An entry stays when room is made if there is room for those after it and one more. -/
theorem mem_makeRoom_of_lt {maxSize : Int} {older newer : List (String × CacheEntry τ α)}
    {p : String × CacheEntry τ α} (h : (newer.length : Int) + 1 < maxSize) :
    p ∈ (makeRoom maxSize (older ++ p :: newer)).1 := by
  induction older with
  | nil =>
    rw [List.nil_append, makeRoom, if_neg (by omega)]
    exact List.mem_cons_self
  | cons o older ih =>
    rw [List.cons_append, makeRoom]
    split
    · exact ih
    · simp

theorem makeRoom_sublist {maxSize : Int} {entries : List (String × CacheEntry τ α)} :
    (makeRoom maxSize entries).1 <+ entries := by
  induction entries with
  | nil => exact List.Sublist.refl _
  | cons e rest ih =>
    rw [makeRoom]
    split
    · exact ih.cons e
    · exact List.Sublist.refl _

theorem without_sublist {entries : List (String × CacheEntry τ α)} : without key entries <+ entries :=
  List.filter_sublist

theorem key_notMem_without (key : String) (entries : List (String × CacheEntry τ α)) :
    key ∉ (without key entries).map Prod.fst := by
  intro h
  obtain ⟨p, hp, hkey⟩ := List.mem_map.1 h
  exact (mem_without.1 hp).2 hkey

end ResultCache

namespace CacheEvent

variable [Add τ] [LE τ] [DecidableLE τ] {e : CacheEvent τ α} {key : String}

theorem ttl_after : e.after.ttl = e.before.ttl := by
  obtain ⟨c, now, call⟩ := e
  cases call with
  | get key => exact c.ttl_get now key
  | _ => rfl

theorem maxSize_after : e.after.maxSize = e.before.maxSize := by
  obtain ⟨c, now, call⟩ := e
  cases call with
  | get key =>
    show (c.get now key).2.maxSize = c.maxSize
    unfold ResultCache.get
    split
    · rfl
    · split <;> rfl
  | _ => rfl

/-- A call moves the key it used to the end.  If it used none, it moves nothing. -/
theorem keys_after : (e.used? = none ∧ e.after.keys <+ e.before.keys) ∨
    ∃ key kept, e.used? = some key ∧ kept <+ e.before.keys ∧ key ∉ kept
      ∧ e.after.keys = kept ++ [key] := by
  obtain ⟨c, now, call⟩ := e
  cases call with
  | get key =>
    rcases hfound : c.entries.lookup key with _ | entry
    · exact .inl (by simp [used?, after, CacheCall.run, ResultCache.get, hfound, ResultCache.keys])
    rcases hstale : ResultCache.isExpired now entry with _ | _
    · refine .inr ⟨key, (ResultCache.without key c.entries).map Prod.fst, ?_,
        ResultCache.without_sublist.map _, ResultCache.key_notMem_without key c.entries, ?_⟩
      · simp [used?, ResultCache.get, hfound, hstale]
      · simp [after, CacheCall.run, ResultCache.get, hfound, hstale, ResultCache.keys]
    · refine .inl ⟨by simp [used?, ResultCache.get, hfound, hstale], ?_⟩
      have hafter : (CacheEvent.after ⟨c, now, .get key⟩).keys
          = (ResultCache.without key c.entries).map Prod.fst := by
        simp [after, CacheCall.run, ResultCache.get, hfound, hstale, ResultCache.keys]
      rw [hafter]
      exact ResultCache.without_sublist.map _
  | put key value tags =>
    refine .inr ⟨key, (ResultCache.makeRoom c.maxSize
      (ResultCache.without key c.entries)).1.map Prod.fst, rfl,
      (ResultCache.makeRoom_sublist.trans ResultCache.without_sublist).map _, ?_, ?_⟩
    · exact fun h => ResultCache.key_notMem_without key c.entries
        ((ResultCache.makeRoom_sublist.map _).subset h)
    · simp [after, CacheCall.run, ResultCache.put, ResultCache.keys]
  | _ => exact .inl ⟨rfl, List.filter_sublist.map _⟩

omit [Add τ] in
/-- The key that a call used has an entry, or the call puts it. -/
theorem of_used (h : e.used? = some key) :
    (∃ value tags, e.call = .put key value tags) ∨ ∃ entry, (key, entry) ∈ e.before.entries := by
  obtain ⟨c, now, call⟩ := e
  cases call with
  | get k =>
    rcases hget : c.get now k with ⟨_ | value, c'⟩
    · simp [used?, hget] at h
    · obtain rfl : k = key := by simpa [used?, hget] using h
      obtain ⟨entry, hentry, -⟩ := ResultCache.exists_of_get hget
      exact .inr ⟨entry, hentry⟩
  | put k value tags =>
    cases h
    exact .inl ⟨value, tags, rfl⟩
  | _ => cases h

omit [LE τ] [DecidableLE τ] in
theorem mem_tags_entry {ttl : τ} {value : α} {tags : List (Option String)} {tag : String} :
    tag ∈ (e.entry ttl value tags).tags ↔ tag ≠ "" ∧ some tag ∈ tags := by
  simp [entry, and_comm]

/-- What a call keeps was there before and is not what the call ends, or the call puts it. -/
theorem of_mem_after {p : String × CacheEntry τ α} (h : p ∈ e.after.entries) :
    (p ∈ e.before.entries ∧ ∀ (put : CacheEvent τ α) ttl value tags, p.2 = put.entry ttl value tags →
        ¬e.call.Ends p.1 tags)
      ∨ ∃ value tags, e.call = .put p.1 value tags ∧ p.2 = e.entry e.before.ttl value tags := by
  obtain ⟨c, now, call⟩ := e
  cases call with
  | get key => exact .inl ⟨ResultCache.mem_get h, fun _ _ _ _ _ h => h⟩
  | put key value tags =>
    rcases List.mem_append.1 h with h | h
    · obtain ⟨hold, hne⟩ := ResultCache.mem_without.1 (ResultCache.mem_makeRoom h)
      exact .inl ⟨hold, fun _ _ _ _ _ hkey => hne hkey.symm⟩
    · obtain rfl := List.mem_singleton.1 h
      exact .inr ⟨value, tags, rfl, rfl⟩
  | invalidate key =>
    obtain ⟨hold, hne⟩ := ResultCache.mem_keep.1 h
    exact .inl ⟨hold, fun _ _ _ _ _ hkey => of_decide_eq_true hne hkey.symm⟩
  | clear =>
    exact absurd (c.entries_clear ▸ h) List.not_mem_nil
  | invalidateTag tag =>
    obtain ⟨hold, htag⟩ := ResultCache.mem_invalidateTag.1 h
    refine .inl ⟨hold, fun put ttl value tags hp hends => htag ?_⟩
    rw [hp]
    exact mem_tags_entry.2 hends
  | cleanup => exact .inl ⟨(ResultCache.mem_keep.1 h).1, fun _ _ _ _ _ h => h⟩

theorem mem_after_put {ttl : τ} {value : α} {tags : List (Option String)}
    (hcall : e.call = .put key value tags) (httl : e.before.ttl = ttl) :
    (key, e.entry ttl value tags) ∈ e.after.entries := by
  obtain ⟨c, now, call⟩ := e
  subst hcall httl
  exact List.mem_append_right _ (List.mem_singleton_self _)

/-- A call other than a put keeps what it does not end, as long as that is not stale. -/
theorem mem_after {put : CacheEvent τ α} {ttl : τ} {value : α} {tags : List (Option String)}
    (hnodup : e.before.keys.Nodup) (h : (key, put.entry ttl value tags) ∈ e.before.entries)
    (hcall : ∀ k v t, e.call ≠ .put k v t) (hkept : ¬e.call.Ends key tags)
    (hlive : ¬put.now + ttl ≤ e.now) : (key, put.entry ttl value tags) ∈ e.after.entries := by
  have hfresh : ResultCache.isExpired e.now (put.entry ttl value tags) = false :=
    decide_eq_false hlive
  obtain ⟨c, now, call⟩ := e
  cases call with
  | get k =>
    show _ ∈ (c.get now k).2.entries
    rcases hfound : c.entries.lookup k with _ | entry
    · simpa [ResultCache.get, hfound] using h
    by_cases hkey : k = key
    · subst hkey
      obtain rfl := Option.some.inj (hfound.symm.trans (ResultCache.lookup_of_mem hnodup h))
      simp [ResultCache.get, hfound, hfresh]
    · have hother := ResultCache.mem_without.2 ⟨h, Ne.symm hkey⟩
      rcases hstale : ResultCache.isExpired now entry with _ | _ <;>
        simp [ResultCache.get, hfound, hstale, hother]
  | put k v t => exact absurd rfl (hcall k v t)
  | invalidate k => exact ResultCache.mem_keep.2 ⟨h, decide_eq_true (Ne.symm hkept)⟩
  | clear => exact absurd trivial hkept
  | invalidateTag tag =>
    exact ResultCache.mem_invalidateTag.2 ⟨h, fun htag => hkept (mem_tags_entry.1 htag)⟩
  | cleanup => exact ResultCache.mem_keep.2 ⟨h, by rw [hfresh]; rfl⟩

end CacheEvent

/-! ## The invariant -/

/-- What the entries of a cache have to do with the calls so far. -/
structure Remembers [Add τ] [LE τ] [DecidableLE τ] (ttl : τ) (maxSize : Int)
    (log : List (CacheEvent τ α)) (c : ResultCache τ α) : Prop where
  /-- Results live as long as they did at the start. -/
  ttl_eq : c.ttl = ttl
  /-- The cache has the room that it had at the start. -/
  maxSize_eq : c.maxSize = maxSize
  /-- Each key was used after those that stand before it. -/
  ordered : c.keys.Pairwise fun older newer => newer ∈ usedSince older log
  /-- Every entry is that of the latest put on its key. -/
  traced : ∀ p ∈ c.entries, ∃ put value tags,
    Latest log put p.1 value tags ∧ p.2 = put.entry ttl value tags
  /-- The entry of a latest put is there while it lives and few other keys were used. -/
  present : ∀ key put value tags now, (∀ e ∈ log, e.now ≤ now) → Latest log put key value tags →
    ¬put.now + ttl ≤ now → ((usedSince key log).card : Int) < maxSize →
    (key, put.entry ttl value tags) ∈ c.entries

namespace Remembers

variable [Add τ] [LE τ] [DecidableLE τ] {ttl : τ} {maxSize : Int} {log : List (CacheEvent τ α)}
  {c : ResultCache τ α} {key : String}

theorem empty (ttl : τ) (maxSize : Int) :
    Remembers ttl maxSize [] (ResultCache.empty ttl maxSize : ResultCache τ α) where
  ttl_eq := rfl
  maxSize_eq := rfl
  ordered := List.Pairwise.nil
  traced := List.forall_mem_nil _
  present := by
    rintro key put value tags now - ⟨before, later, hlog, -⟩
    simp at hlog

theorem nodup (h : Remembers ttl maxSize log c) : c.keys.Nodup := by
  refine List.Pairwise.imp ?_ h.ordered
  rintro older newer hused rfl
  exact not_mem_usedSince hused

/-- Fewer keys stand after a key than were used since it was. -/
theorem length_newer_le (h : Remembers ttl maxSize log c) {other : String}
    {older newer : List (String × CacheEntry τ α)} {entry : CacheEntry τ α}
    (hentries : ResultCache.without other c.entries = older ++ (key, entry) :: newer) :
    newer.length ≤ ((usedSince key log).erase other).card := by
  have hsub : (older ++ (key, entry) :: newer).map Prod.fst <+ c.keys :=
    hentries ▸ ResultCache.without_sublist.map _
  have hafter : newer.map Prod.fst <+ c.keys := by
    refine List.Sublist.trans ?_ hsub
    simp
  have hused := h.ordered.sublist hsub
  rw [List.map_append, List.pairwise_append, List.map_cons, List.pairwise_cons] at hused
  have hother : other ∉ newer.map Prod.fst := by
    intro hmem
    refine ResultCache.key_notMem_without other c.entries ?_
    rw [hentries]
    simp [hmem]
  rw [← List.length_map Prod.fst, ← List.toFinset_card_of_nodup (h.nodup.sublist hafter)]
  refine Finset.card_le_card fun k hk => ?_
  rw [List.mem_toFinset] at hk
  exact Finset.mem_erase.2 ⟨fun heq => hother (heq ▸ hk), hused.2.1.1 k hk⟩

theorem ordered_step {e : CacheEvent τ α} (h : Remembers ttl maxSize log e.before) :
    e.after.keys.Pairwise fun older newer => newer ∈ usedSince older (log ++ [e]) := by
  rcases e.keys_after with ⟨hused, hkeys⟩ | ⟨k, kept, hused, hkept, hk, hkeys⟩
  · simp only [usedSince_unused hused]
    exact h.ordered.sublist hkeys
  · rw [hkeys, List.pairwise_append]
    have hother : ∀ older ∈ kept,
        usedSince older (log ++ [e]) = insert k (usedSince older log) := by
      intro older hmem
      exact usedSince_other hused fun heq => hk (heq ▸ hmem)
    refine ⟨?_, List.pairwise_singleton _ _, ?_⟩
    · refine (h.ordered.sublist hkept).imp_of_mem fun {older newer} holder _ hnewer => ?_
      rw [hother older holder]
      exact Finset.mem_insert_of_mem hnewer
    · intro older holder newer hnewer
      rw [hother older holder, List.mem_singleton.1 hnewer]
      exact Finset.mem_insert_self _ _

theorem traced_step {e : CacheEvent τ α} (h : Remembers ttl maxSize log e.before)
    {p : String × CacheEntry τ α} (hp : p ∈ e.after.entries) :
    ∃ put value tags, Latest (log ++ [e]) put p.1 value tags ∧ p.2 = put.entry ttl value tags := by
  rcases CacheEvent.of_mem_after hp with ⟨hold, hends⟩ | ⟨value, tags, hcall, hentry⟩
  · obtain ⟨put, value, tags, hlatest, hentry⟩ := h.traced p hold
    exact ⟨put, value, tags, latest_concat.2 (.inr ⟨hlatest, hends put ttl value tags hentry⟩),
      hentry⟩
  · exact ⟨e, value, tags, latest_concat.2 (.inl ⟨rfl, hcall⟩), h.ttl_eq ▸ hentry⟩

/-- A put keeps the entry of another key if few keys were used since that, this one included. -/
theorem present_put (h : Remembers ttl maxSize log c) {now : τ} {other : String} {v : α}
    {t : List (Option String)} {entry : CacheEntry τ α} (hentry : (key, entry) ∈ c.entries)
    (hne : other ≠ key) (hfew : ((insert other (usedSince key log)).card : Int) < maxSize) :
    (key, entry) ∈ (c.put now other v t).entries := by
  obtain ⟨older, newer, hentries⟩ :=
    List.append_of_mem (ResultCache.mem_without.2 ⟨hentry, Ne.symm hne⟩)
  have hnewer := h.length_newer_le hentries
  have hcard := Finset.card_erase_add_one (Finset.mem_insert_self other (usedSince key log))
  rw [Finset.erase_insert_eq_erase] at hcard
  refine List.mem_append_left _ ?_
  rw [hentries, h.maxSize_eq]
  exact ResultCache.mem_makeRoom_of_lt (by omega)

theorem present_step [IsTrans τ (· ≤ ·)] {e : CacheEvent τ α}
    (h : Remembers ttl maxSize log e.before) (hclock : ∀ f ∈ log, f.now ≤ e.now)
    {put : CacheEvent τ α} {value : α} {tags : List (Option String)} {now : τ} (hnow : e.now ≤ now)
    (hlatest : Latest (log ++ [e]) put key value tags) (hlive : ¬put.now + ttl ≤ now)
    (hfew : ((usedSince key (log ++ [e])).card : Int) < maxSize) :
    (key, put.entry ttl value tags) ∈ e.after.entries := by
  rcases latest_concat.1 hlatest with ⟨rfl, hcall⟩ | ⟨hlatest, hkept⟩
  · exact CacheEvent.mem_after_put hcall h.ttl_eq
  have hlive_e : ¬put.now + ttl ≤ e.now := fun hstale => hlive (IsTrans.trans _ _ _ hstale hnow)
  have hentry : (key, put.entry ttl value tags) ∈ e.before.entries := by
    by_cases hused : e.used? = some key
    · -- The key was just found, so its entry is there, and there is one latest put.
      obtain ⟨v, t, hput⟩ | ⟨entry, hentry⟩ := CacheEvent.of_used hused
      · exact absurd (by rw [hput]; rfl) hkept
      · obtain ⟨put', value', tags', hlatest', rfl⟩ := h.traced _ hentry
        obtain ⟨rfl, rfl, rfl⟩ := hlatest.unique hlatest'
        exact hentry
    · have hle : (usedSince key log).card ≤ (usedSince key (log ++ [e])).card :=
        Finset.card_le_card (usedSince_subset hused)
      exact h.present key put value tags e.now hclock hlatest hlive_e (by omega)
  by_cases hput : ∃ k v t, e.call = .put k v t
  · obtain ⟨k, v, t, hcall⟩ := hput
    obtain ⟨c, now, call⟩ := e
    obtain rfl : call = .put k v t := hcall
    rw [usedSince_other rfl hkept] at hfew
    exact h.present_put hentry hkept hfew
  · exact CacheEvent.mem_after h.nodup hentry (fun k v t hcall => hput ⟨k, v, t, hcall⟩) hkept hlive_e

theorem step [IsTrans τ (· ≤ ·)] {e : CacheEvent τ α} (h : Remembers ttl maxSize log e.before)
    (hclock : ∀ f ∈ log, f.now ≤ e.now) : Remembers ttl maxSize (log ++ [e]) e.after where
  ttl_eq := e.ttl_after.trans h.ttl_eq
  maxSize_eq := e.maxSize_after.trans h.maxSize_eq
  ordered := h.ordered_step
  traced _ hp := h.traced_step hp
  present _ _ _ _ _ hnow hlatest hlive hfew :=
    h.present_step hclock (hnow e (by simp)) hlatest hlive hfew

end Remembers

theorem CacheRun.remembers [Add τ] [LE τ] [DecidableLE τ] [IsTrans τ (· ≤ ·)] {ttl : τ}
    {maxSize : Int} {log : List (CacheEvent τ α)} {c : ResultCache τ α}
    (h : CacheRun (.empty ttl maxSize) log c) : Remembers ttl maxSize log c := by
  induction h with
  | start => exact Remembers.empty ttl maxSize
  | call _ now hclock call ih => exact Remembers.step (e := ⟨_, now, call⟩) ih hclock

/-! ## What is found -/

theorem ResultCache.get_eq_some_iff [LE τ] [DecidableLE τ] {c : ResultCache τ α} {now : τ}
    {key : String} {value : α} (hnodup : c.keys.Nodup) :
    (c.get now key).1 = some value
      ↔ ∃ e, (key, e) ∈ c.entries ∧ e.value = value ∧ ¬e.expires ≤ now := by
  constructor
  · intro h
    unfold ResultCache.get at h
    split at h
    · cases h
    next e hfound =>
    split at h
    · cases h
    next hfresh =>
    cases h
    exact ⟨e, mem_of_lookup hfound, rfl, fun hstale => hfresh (decide_eq_true hstale)⟩
  · rintro ⟨e, he, rfl, hlive⟩
    have hfresh : isExpired now e = false := decide_eq_false hlive
    simp [ResultCache.get, lookup_of_mem hnodup he, hfresh]

/-- A lookup finds the result of the latest put on the key only, while that lives and unless
something dropped it.  It does find that if fewer other keys than the cache has room for were used
since the key was. -/
theorem get_finds_latest_put [Add τ] [LE τ] [DecidableLE τ] [IsTrans τ (· ≤ ·)] {ttl : τ}
    {maxSize : Int} {log : List (CacheEvent τ α)} {c : ResultCache τ α} {now : τ}
    (hrun : CacheRun (.empty ttl maxSize) log c) (hclock : ∀ e ∈ log, e.now ≤ now)
    (key : String) (value : α) :
    ((c.get now key).1 = some value →
        ∃ put tags, Latest log put key value tags ∧ ¬put.now + ttl ≤ now) ∧
      ∀ put tags, Latest log put key value tags → ¬put.now + ttl ≤ now →
        ((usedSince key log).card : Int) < maxSize → (c.get now key).1 = some value := by
  have hremembers := hrun.remembers
  rw [ResultCache.get_eq_some_iff hremembers.nodup]
  constructor
  · rintro ⟨entry, hentry, rfl, hlive⟩
    obtain ⟨put, value, tags, hlatest, rfl⟩ := hremembers.traced _ hentry
    exact ⟨put, tags, hlatest, hlive⟩
  · intro put tags hlatest hlive hfew
    exact ⟨put.entry ttl value tags,
      hremembers.present key put value tags now hclock hlatest hlive hfew, rfl, hlive⟩

/-- A cache with room for two results, in which one was put and then another one. -/
def twoPuts : List (CacheEvent Int Nat) :=
  [⟨.empty 10 2, 0, .put "orders" 7 [some "sales"]⟩,
    ⟨(ResultCache.empty 10 2).put 0 "orders" 7 [some "sales"], 1, .put "refunds" 3 [none]⟩]

/-- Nine seconds after it was put the older result is still found, as one other key was used. -/
theorem twoPuts_found : ∃ c, CacheRun (.empty 10 2) twoPuts c ∧ (∀ e ∈ twoPuts, e.now ≤ 9)
    ∧ (c.get 9 "orders").1 = some 7 := by
  have hrun : CacheRun (.empty 10 2) twoPuts _ :=
    .call (.call .start 0 (by simp) (.put "orders" 7 [some "sales"])) 1 (by simp)
      (.put "refunds" 3 [none])
  have hclock : ∀ e ∈ twoPuts, e.now ≤ 9 := by decide
  refine ⟨_, hrun, hclock, (get_finds_latest_put hrun hclock "orders" 7).2 _ [some "sales"]
    ⟨[], _, rfl, rfl, ?_⟩ (by decide) (by decide)⟩
  simp [CacheCall.Ends]

end MetricLayer
