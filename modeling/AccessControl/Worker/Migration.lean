import AccessControl.Text.Split

/-!
# Making the tables

Before the worker starts it has the database make the table of entries, unless it was made before.
The statements are sent in a fixed order; the first that is refused ends the worker.
-/

namespace AccessControl.Worker

/-- A statement sent while the tables are made. -/
structure MigrationStatement where
  sql : String
  /-- The number of the migration whose own text the statement is. -/
  migration : Option Nat := none
  deriving DecidableEq, Repr

/-- The text that makes the table of entries and its indexes. -/
def entriesTable : String :=
  "CREATE TABLE IF NOT EXISTS entries ( uuid UUID PRIMARY KEY, space_name TEXT NOT NULL, " ++
  "subpath TEXT NOT NULL, shortname TEXT NOT NULL, resource_type TEXT NOT NULL, " ++
  "is_active BOOLEAN NOT NULL DEFAULT TRUE, owner_shortname TEXT NOT NULL, " ++
  "document JSONB NOT NULL, query_policies TEXT[] NOT NULL DEFAULT '\x7b\x7d', " ++
  "created_at TIMESTAMPTZ NOT NULL DEFAULT now(), updated_at TIMESTAMPTZ NOT NULL DEFAULT now(), " ++
  "UNIQUE (space_name, subpath, shortname) ); " ++
  "CREATE INDEX IF NOT EXISTS idx_entries_management_listing " ++
  "ON entries (space_name, subpath, resource_type) WHERE is_active; " ++
  "CREATE INDEX IF NOT EXISTS idx_entries_query_policies ON entries USING GIN (query_policies);"

/-- The statements that make the tables of a database without any, in order. -/
def migrationStatements : List MigrationStatement := [
  { sql := "SELECT current_database()" },
  { sql := "SELECT pg_advisory_lock($1)" },
  { sql := "CREATE TABLE IF NOT EXISTS _sqlx_migrations ( version BIGINT PRIMARY KEY, " ++
      "description TEXT NOT NULL, installed_on TIMESTAMPTZ NOT NULL DEFAULT now(), " ++
      "success BOOLEAN NOT NULL, checksum BYTEA NOT NULL, execution_time BIGINT NOT NULL );" },
  { sql := "SELECT version FROM _sqlx_migrations WHERE success = false ORDER BY version LIMIT 1" },
  { sql := "SELECT version, checksum FROM _sqlx_migrations ORDER BY version" },
  { sql := "BEGIN" },
  { sql := entriesTable, migration := some 1 },
  { sql := "INSERT INTO _sqlx_migrations ( version, description, success, checksum, " ++
      "execution_time ) VALUES ( $1, $2, TRUE, $3, -1 )" },
  { sql := "COMMIT" },
  { sql := "UPDATE _sqlx_migrations SET execution_time = $1 WHERE version = $2" },
  { sql := "SELECT pg_advisory_unlock($1)" }]

/-- Why the tables could not be made. -/
structure MigrationFault where
  /-- The migration whose own text was refused. -/
  migration : Option Nat
  /-- What the database said. -/
  reason : String
  deriving DecidableEq, Repr

/-- The wording of a fault. -/
def MigrationFault.message (fault : MigrationFault) : String :=
  let stage :=
    match fault.migration with
    | some number => s!"while executing migration {number}"
    | none => "while executing migrations"
  s!"failed to run migrations: {stage}: error returned from database: {fault.reason}"

/-- Makes the tables in a database that refuses statements for the reasons given. -/
def migrate (refuses : String → Option String) : Except MigrationFault Unit :=
  let refusal? := migrationStatements.findSome? fun statement =>
    (refuses statement.sql).map fun reason => MigrationFault.mk statement.migration reason
  match refusal? with
  | some fault => .error fault
  | none => .ok ()

end AccessControl.Worker
