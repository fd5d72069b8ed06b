import MetricLayer.Digest.Sha256
import MetricLayer.Value.Canonical

/-!
# Keys of cached results

The key of a request is the digest of its canonical text: the metric, the filters with the caller's
own restrictions merged in, the grouping and the date field.
-/

namespace MetricLayer

/-- The digest of a value. -/
def Value.digest (v : Value) : String := sha256Hex v.canonical

/-- A value, or another one in its place when it counts as absent. -/
def Value.orElse (v fallback : Value) : Value := if v.isTruthy then v else fallback

/-- The request for a metric as a value. -/
def requestValue (metricId : String) (filters groupBy dateField : Value) : Value :=
  .object [("metric_id", .text metricId), ("filters", filters.orElse (.object [])),
    ("group_by", groupBy.orElse (.list [])), ("date_field", dateField)]

/-- The key under which the result of a request is cached. -/
def cacheKey (metricId : String) (filters groupBy dateField : Value) : String :=
  (requestValue metricId filters groupBy dateField).digest

end MetricLayer
