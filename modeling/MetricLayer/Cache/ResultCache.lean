/-!
# The cache of results

A map with a time to live, a size limit and tags.  Entries stand in the order of their last use, so
the first one is the least recently used and goes first when room is needed.  The cache never looks
at a clock of its own: whoever asks says what time it is.
-/

namespace MetricLayer

/-- A stored result. -/
structure CacheEntry (τ α : Type) where
  /-- The result. -/
  value : α
  /-- The time from which on the result is stale. -/
  expires : τ
  /-- The subjects whose change makes the result wrong. -/
  tags : List String

/-- A cache of results with times in `τ`. -/
structure ResultCache (τ α : Type) where
  /-- How long a result lives. -/
  ttl : τ
  /-- The number of entries above which room is made. -/
  maxSize : Int
  /-- The entries by key, the least recently used one first. -/
  entries : List (String × CacheEntry τ α)
  /-- The number of lookups that found a result. -/
  hits : Nat
  /-- The number of lookups that found none. -/
  misses : Nat
  /-- The number of entries that made room for others. -/
  evictions : Nat

namespace ResultCache

variable {τ α : Type} [Add τ] [LE τ] [DecidableLE τ]

/-- The empty cache. -/
def empty (ttl : τ) (maxSize : Int) : ResultCache τ α := ⟨ttl, maxSize, [], 0, 0, 0⟩

/-- The entry is stale. -/
def isExpired (now : τ) (e : CacheEntry τ α) : Bool := e.expires ≤ now

/-- The keys, the least recently used one first. -/
def keys (c : ResultCache τ α) : List String := c.entries.map Prod.fst

/-- The entries without the one under a key. -/
def without (key : String) (entries : List (String × CacheEntry τ α)) :
    List (String × CacheEntry τ α) :=
  entries.filter (·.1 ≠ key)

/-- Looks a key up.  A stale entry is dropped; a live one becomes the most recently used. -/
def get (c : ResultCache τ α) (now : τ) (key : String) : Option α × ResultCache τ α :=
  match c.entries.lookup key with
  | none => (none, { c with misses := c.misses + 1 })
  | some e =>
    if isExpired now e then
      (none, { c with entries := without key c.entries, misses := c.misses + 1 })
    else
      (some e.value, { c with entries := without key c.entries ++ [(key, e)], hits := c.hits + 1 })

/-- Makes room for one more entry: what stays and how many entries go. -/
def makeRoom (maxSize : Int) :
    List (String × CacheEntry τ α) → List (String × CacheEntry τ α) × Nat
  | [] => ([], 0)
  | e :: rest =>
    if maxSize ≤ rest.length + 1 then
      let r := makeRoom maxSize rest
      (r.1, r.2 + 1)
    else (e :: rest, 0)

/-- Stores a result under a key with the tags that are not empty. -/
def put (c : ResultCache τ α) (now : τ) (key : String) (value : α) (tags : List (Option String)) :
    ResultCache τ α :=
  let room := makeRoom c.maxSize (without key c.entries)
  let kept := (tags.filterMap id).filter (· ≠ "")
  { c with
    entries := room.1 ++ [(key, ⟨value, now + c.ttl, kept⟩)], evictions := c.evictions + room.2 }

/-- Keeps the entries that satisfy a condition; the number of those that go. -/
def keep (c : ResultCache τ α) (p : String → CacheEntry τ α → Bool) : Nat × ResultCache τ α :=
  let kept := c.entries.filter fun e => p e.1 e.2
  (c.entries.length - kept.length, { c with entries := kept })

/-- Drops the entry under a key; the number of entries dropped. -/
def invalidate (c : ResultCache τ α) (key : String) : Nat × ResultCache τ α :=
  c.keep fun k _ => k ≠ key

/-- Drops all entries; their number. -/
def clear (c : ResultCache τ α) : Nat × ResultCache τ α := c.keep fun _ _ => false

/-- Drops the entries with a tag; their number. -/
def invalidateTag (c : ResultCache τ α) (tag : String) : Nat × ResultCache τ α :=
  c.keep fun _ e => !e.tags.contains tag

/-- Drops the stale entries; their number. -/
def cleanup (c : ResultCache τ α) (now : τ) : Nat × ResultCache τ α :=
  c.keep fun _ e => !isExpired now e

end ResultCache

end MetricLayer
