import MetricLayer.Check.Reader
import MetricLayer.Failure

/-!
# Settings

What can be configured from the environment, with the defaults.  Names of variables are read in any
case; variables that are not known are ignored.
-/

namespace MetricLayer

/-- The configuration of the program. -/
structure Settings where
  /-- The database user. -/
  postgresUser : String
  /-- The database password. -/
  postgresPassword : String
  /-- The database. -/
  postgresDb : String
  /-- The database host. -/
  postgresHost : String
  /-- The number at which the database listens. -/
  postgresPort : Int
  /-- The time limit of a query in milliseconds. -/
  queryTimeoutMs : Int
  /-- The time to live of a cached result in seconds. -/
  cacheTtlSeconds : Int
  /-- The number of cached results. -/
  cacheMaxSize : Int
  /-- The number of rows in one insertion. -/
  insertBatchSize : Int
  /-- The number of rows that decide a schema. -/
  schemaSampleRows : Int
  /-- What to do about extra columns. -/
  extraColumnPolicy : String
  /-- The number at which the service listens. -/
  apiPort : Int
  deriving DecidableEq, Repr

namespace Settings

open Number Reader

/-- The variables with their names in lower case; of two spellings of one name the later counts. -/
def lowered (env : Fields) : Fields :=
  env.foldl (fun acc f => acc.set f.1.toLower f.2) []

/-- The settings under the variables of an environment. -/
def read (env : Fields) : Checked Settings :=
  let vars := lowered env
  Settings.mk <$> optional vars "postgres_user" "metrics" text
    <*> optional vars "postgres_password" "metrics_pw" text
    <*> optional vars "postgres_db" "analytics" text
    <*> optional vars "postgres_host" "localhost" text
    <*> optional vars "postgres_port" 5432 integer
    <*> optional vars "query_timeout_ms" 10000 integer
    <*> optional vars "cache_ttl_seconds" 300 integer
    <*> optional vars "cache_max_size" 256 integer
    <*> optional vars "insert_batch_size" 500 integer
    <*> optional vars "schema_sample_rows" 100 integer
    <*> optional vars "extra_column_policy" "permissive" text
    <*> optional vars "api_port" 8000 integer

/-- The address of the database. -/
def databaseUrl (s : Settings) : String :=
  "postgresql://" ++ s.postgresUser ++ ":" ++ s.postgresPassword ++ "@" ++ s.postgresHost ++ ":"
    ++ integerText s.postgresPort ++ "/" ++ s.postgresDb

/-- The settings as a value. -/
def toValue (s : Settings) : Value :=
  .object [("postgres_user", .text s.postgresUser), ("postgres_password", .text s.postgresPassword),
    ("postgres_db", .text s.postgresDb), ("postgres_host", .text s.postgresHost),
    ("postgres_port", .int s.postgresPort), ("query_timeout_ms", .int s.queryTimeoutMs),
    ("cache_ttl_seconds", .int s.cacheTtlSeconds), ("cache_max_size", .int s.cacheMaxSize),
    ("insert_batch_size", .int s.insertBatchSize), ("schema_sample_rows", .int s.schemaSampleRows),
    ("extra_column_policy", .text s.extraColumnPolicy), ("api_port", .int s.apiPort),
    ("database_url", .text s.databaseUrl)]

end Settings

end MetricLayer
