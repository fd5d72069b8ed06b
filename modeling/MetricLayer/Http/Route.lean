import MetricLayer.Text.PercentDecoded

/-!
# Paths

Which operation a method and a path stand for.  A path without any operation is not found, one that
only has operations for other methods does not allow the method.
-/

namespace MetricLayer.Http

/-- The operations that requests can ask for. -/
inductive Endpoint where
  | createMetric
  | listMetrics
  | validateExpression
  | showMetric (id : String)
  | deleteMetric (id : String)
  | runMetric (id : String)
  | createSource
  | listSources
  | inferSchema
  | showSource (id : String)
  | deleteSource (id : String)
  | listTables (sourceId : String)
  | createTable (sourceId : String)
  | appendRows (sourceId table : String)
  | preview (sourceId table : String)
  | chart
  | timeSeries
  | cacheStatistics
  | clearCache
  | health
  deriving DecidableEq, Repr

/-- What a method and a path lead to. -/
inductive Route where
  /-- An operation. -/
  | endpoint (e : Endpoint)
  /-- The path has operations, but not for the method. -/
  | otherMethods
  /-- The path has no operations. -/
  | nowhere
  deriving DecidableEq, Repr

namespace Route

/-- The operations of a path, each with its method.  Of two for one method the first counts. -/
def endpoints : List String → List (String × Endpoint)
  | ["metrics"] => [("POST", .createMetric), ("GET", .listMetrics)]
  | ["metrics", id] =>
    (if id = "validate" then [("POST", .validateExpression)] else [])
      ++ [("GET", .showMetric id), ("DELETE", .deleteMetric id)]
  | ["metrics", id, "execute"] => [("POST", .runMetric id)]
  | ["data-sources"] => [("POST", .createSource), ("GET", .listSources)]
  | ["data-sources", id] =>
    (if id = "infer-schema" then [("POST", .inferSchema)] else [])
      ++ [("GET", .showSource id), ("DELETE", .deleteSource id)]
  | ["data-sources", id, "tables"] => [("GET", .listTables id), ("POST", .createTable id)]
  | ["data-sources", id, "tables", table, "rows"] => [("POST", .appendRows id table)]
  | ["data-sources", id, "tables", table, "preview"] => [("GET", .preview id table)]
  | ["query", "chart"] => [("POST", .chart)]
  | ["query", "time-series"] => [("POST", .timeSeries)]
  | ["cache", "stats"] => [("GET", .cacheStatistics)]
  | ["cache", "clear"] => [("POST", .clearCache)]
  | ["health"] => [("GET", .health)]
  | _ => []

/-- The parts of a path between its slashes; the first slash may be missing. -/
def segments (path : String) : List String :=
  match (path.toList.splitOn '/').map String.ofList with
  | "" :: parts => parts
  | parts => parts

/-- The path without slashes at its end. -/
def withoutEndSlashes (path : String) : String :=
  String.ofList (path.toList.reverse.dropWhile (· = '/')).reverse

/-- What a method and a path lead to.  Slashes at the end of a path do not matter, but no part of it
is empty. -/
def find (method path : String) : Route :=
  let parts := segments (withoutEndSlashes (Text.percentDecoded path))
  let found := if parts.contains "" then [] else endpoints parts
  match found.lookup method with
  | some e => .endpoint e
  | none => if found.isEmpty then .nowhere else .otherMethods

end Route

end MetricLayer.Http
