import Discography.Connect.Url

/-!
# Engines

An engine reaches the database of an address through the driver that the address names and keeps its
connections in a pool. A database in memory lives as long as its one connection, so that all share
it; other connections wait in a queue of limited size.
-/

set_option autoImplicit false

namespace Discography.Connect

open Discography.Text

/-! ## Drivers -/

/-- A driver that can be loaded. -/
structure Driver where
  /-- The dialect that it speaks. -/
  dialect : String
  /-- Its name among the drivers of the dialect. -/
  name : String
  /-- Whether it can be used without blocking. -/
  isAsync : Bool
  /-- The class that presents it in errors. -/
  className : String
  deriving DecidableEq, Repr

/-- What stands behind the name of a dialect. -/
inductive Support where
  | driver (d : Driver)
  /-- A driver that is known but not installed. -/
  | absent (module : String)
  deriving DecidableEq, Repr

/-- The blocking driver for files. -/
def blockingFiles : Driver := ⟨"sqlite", "pysqlite", false, "SQLiteDialect_pysqlite"⟩

/-- The driver for files that does not block. -/
def files : Driver := ⟨"sqlite", "aiosqlite", true, "SQLiteDialect_aiosqlite"⟩

/-- The driver for servers that does not block. -/
def servers : Driver := ⟨"postgresql", "asyncpg", true, "PGDialect_asyncpg"⟩

/-- The dialects that are known, with their drivers. -/
def knownSupport : List (String × Support) :=
  [("sqlite", .driver blockingFiles), ("sqlite+pysqlite", .driver blockingFiles),
   ("sqlite+aiosqlite", .driver files), ("postgresql+asyncpg", .driver servers),
   ("sqlite+pysqlcipher", .absent "pysqlcipher3"),
   ("postgresql", .absent "psycopg2"), ("postgresql+psycopg2", .absent "psycopg2"),
   ("postgresql+psycopg", .absent "psycopg"), ("postgresql+psycopg_async", .absent "psycopg"),
   ("postgresql+pg8000", .absent "pg8000"), ("postgresql+psycopg2cffi", .absent "psycopg2cffi"),
   ("mysql", .absent "MySQLdb"), ("mysql+mysqldb", .absent "MySQLdb"),
   ("mysql+pymysql", .absent "pymysql"), ("mysql+aiomysql", .absent "aiomysql"),
   ("mysql+asyncmy", .absent "asyncmy"), ("mysql+mysqlconnector", .absent "mysql"),
   ("mysql+mariadbconnector", .absent "mariadb"), ("mysql+cymysql", .absent "cymysql"),
   ("mysql+pyodbc", .absent "pyodbc"), ("mariadb", .absent "MySQLdb"),
   ("mariadb+mysqldb", .absent "MySQLdb"), ("mariadb+pymysql", .absent "pymysql"),
   ("mariadb+aiomysql", .absent "aiomysql"), ("mariadb+asyncmy", .absent "asyncmy"),
   ("mariadb+mysqlconnector", .absent "mysql"), ("mariadb+mariadbconnector", .absent "mariadb"),
   ("oracle", .absent "cx_Oracle"), ("oracle+cx_oracle", .absent "cx_Oracle"),
   ("oracle+oracledb", .absent "oracledb"), ("mssql", .absent "pyodbc"),
   ("mssql+pyodbc", .absent "pyodbc"), ("mssql+pymssql", .absent "pymssql"),
   ("mssql+aioodbc", .absent "aioodbc")]

/-- A dialect that is not known. -/
def unknownDialect (name : String) : Failure :=
  .sql .noSuchModule ("Can\x27t load plugin: sqlalchemy.dialects:" ++
    String.ofList (name.toList.map fun c => if c = '+' then '.' else c))

/-- A name with more than one plus sign. -/
def tooManyParts : Failure := .fault .value "too many values to unpack (expected 2)"

/-- A driver that is not installed. -/
def driverAbsent (module : String) : Failure :=
  .fault .moduleNotFound ("No module named \x27" ++ module ++ "\x27")

/-- An address of files with a host, a port, a user or a password. -/
def hostForFiles (u : Url) : Failure := .sql .argument ("Invalid SQLite URL: " ++ u.masked)

/-- A driver that blocks. -/
def driverBlocks (d : Driver) : Failure :=
  .sql .invalidRequest ("The asyncio extension requires an async driver to be used. The loaded \x27" ++
    d.name ++ "\x27 is not async.")

/-- Options that a pool does not take. -/
def optionsRefused (options : List String) (d : Driver) (pool : String) : Failure :=
  .fault .type ("Invalid argument(s) " ++
    ",".intercalate (options.map fun o => "\x27" ++ o ++ "\x27") ++
    " sent to create_engine(), using configuration " ++ d.className ++ "/" ++ pool ++
    "/Engine.  Please check that the keyword arguments are appropriate for this combination of " ++
    "components.")

/-- Whether an address has anything that an address of files does not. -/
def hasHost (u : Url) : Bool :=
  u.user.any (!·.isEmpty) || u.host.any (!·.isEmpty) || u.password.any (!·.isEmpty) ||
    u.port.any (· != 0)

/-- The driver for an address. -/
def driverFor (u : Url) : Except Failure Driver :=
  match knownSupport.lookup u.name with
  | some (.driver d) =>
    if d.dialect = "sqlite" && hasHost u then .error (hostForFiles u) else .ok d
  | some (.absent module) => .error (driverAbsent module)
  | none =>
    .error (if 1 < u.name.toList.count '+' then tooManyParts else unknownDialect u.name)

/-! ## Pools -/

/-- How connections are kept. -/
inductive Pool where
  /-- One connection for all. -/
  | shared
  /-- One connection for each thread. -/
  | perThread
  /-- A queue of connections; beyond its size it may grow by the overflow. -/
  | queue (size overflow : Int)
  deriving DecidableEq, Repr

/-- The name of a pool. -/
def Pool.name : Pool → String
  | .shared => "StaticPool"
  | .perThread => "SingletonThreadPool"
  | .queue .. => "AsyncAdaptedQueuePool"

/-- A queue of a size. Without a size it may grow without bound. -/
def Pool.queueOf (size overflow : Int) : Pool := .queue size (if size = 0 then -1 else overflow)

/-- The word for a database in memory. -/
def memoryWord : String := ":memory:"

/-- Whether an address of files names one. -/
def Url.namesFile (u : Url) : Bool :=
  u.database.any (fun name => !name.isEmpty && name != memoryWord) &&
    u.option? "mode" != some "memory"

/-- Whether one text occurs in another. -/
def occurs (word : List Char) : List Char → Bool
  | [] => word.isEmpty
  | c :: r => word.isPrefixOf (c :: r) || occurs word r

/-- An engine: its address, its pool, and whether connections are tested before they are used. -/
structure Engine where
  url : Url
  pool : Pool
  tested : Bool
  deriving DecidableEq, Repr

namespace Engine

/-- An engine whose driver does not block. -/
def checked (d : Driver) (e : Engine) : Except Failure Engine :=
  if d.isAsync then .ok e else .error (driverBlocks d)

/-- Whether the text of an address asks for a database in memory. -/
def asksForMemory (text : String) : Bool :=
  "sqlite".toList.isPrefixOf text.toList && occurs memoryWord.toList text.toList

/-- The pool that suits an address. -/
def poolFor (d : Driver) (u : Url) (size overflow : Int) : Pool :=
  if d.dialect = "sqlite" && !u.namesFile then
    if d.isAsync then .shared else .perThread
  else .queueOf size overflow

/-- The engine of an address. -/
def plain (text : String) : Except Failure Engine := do
  let u ← Url.parse text
  let d ← driverFor u
  let pool := if asksForMemory text then .shared else poolFor d u 5 10
  checked d ⟨u, pool, false⟩

/-- The engine of an address with a size and an overflow, for pools that take them. -/
def sized (text : String) (size overflow : Int) : Except Failure Engine := do
  let u ← Url.parse text
  let d ← driverFor u
  let pool := poolFor d u size overflow
  match pool with
  | .shared => .error (optionsRefused ["pool_size", "max_overflow"] d pool.name)
  | .perThread => .error (optionsRefused ["max_overflow"] d pool.name)
  | .queue .. => checked d ⟨u, pool, true⟩

end Engine

end Discography.Connect
