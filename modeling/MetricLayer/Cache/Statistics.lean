import MetricLayer.Cache.ResultCache
import MetricLayer.Cache.Seconds
import MetricLayer.Number.Rounding

/-!
# Cache statistics

The size, the limits and the counts of a cache, and the share of lookups that found a result.
-/

namespace MetricLayer.ResultCache

/-- The share of lookups that found a result, to three places; zero before the first lookup. -/
def hitRate {τ α : Type} (c : ResultCache τ α) : Float :=
  let lookups := c.hits + c.misses
  if lookups = 0 then 0.0
  else Number.roundPlaces 3 (Float.ofNat c.hits / Float.ofNat lookups)

/-- The statistics as a value; `lifetime` is the time to live as it is to be shown. -/
def statistics {α : Type} (c : ResultCache Seconds α) (lifetime : Value) : Value :=
  .object [("size", .int c.entries.length), ("max_size", .int c.maxSize),
    ("ttl_seconds", lifetime), ("hits", .int c.hits), ("misses", .int c.misses),
    ("evictions", .int c.evictions), ("hit_rate", .float c.hitRate)]

end MetricLayer.ResultCache
