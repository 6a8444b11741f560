import SqlStatement.Dialect

/-!
# The dialects that come with the library
-/

namespace SqlStatement.Dialect

def decimal (n : UInt64) : String :=
  toString n.toNat

def ansi : Dialect where
  name := "ansi"
  limit l := "FETCH FIRST " ++ decimal l ++ " ROWS ONLY"
  offset o := "OFFSET " ++ decimal o ++ " ROWS"
  limitOffset l o :=
    "OFFSET " ++ decimal o ++ " ROWS FETCH FIRST " ++ decimal l ++ " ROWS ONLY"

def postgres : Dialect where
  name := "postgres"
  limit l := "LIMIT " ++ decimal l
  offset o := "OFFSET " ++ decimal o
  limitOffset l o := "LIMIT " ++ decimal l ++ " OFFSET " ++ decimal o
  supportsArrays := true
  arrayType element := .ok (.array element)

/-- A bare offset does not exist here: it is written with the greatest limit
there is. -/
def mysql : Dialect where
  name := "mysql"
  limit l := "LIMIT " ++ decimal l
  offset o := "LIMIT " ++ decimal o ++ ", 18446744073709551615"
  limitOffset l o := "LIMIT " ++ decimal o ++ ", " ++ decimal l
  quote := '\x60'

def h2 : Dialect where
  name := "h2"
  limit l := "LIMIT " ++ decimal l
  offset o := "OFFSET " ++ decimal o
  limitOffset l o := "LIMIT " ++ decimal l ++ " OFFSET " ++ decimal o
  supportsArrays := true
  arrayType element := .ok (.custom (element.sql ++ " ARRAY"))

/-- Paging stands only after an ORDER BY, so that a statement without one is
given one that orders nothing. -/
def sqlServer : Dialect where
  name := "sqlserver"
  limit l := "OFFSET 0 ROWS FETCH NEXT " ++ decimal l ++ " ROWS ONLY"
  offset o := "OFFSET " ++ decimal o ++ " ROWS"
  limitOffset l o :=
    "OFFSET " ++ decimal o ++ " ROWS FETCH NEXT " ++ decimal l ++ " ROWS ONLY"
  pagingOrder := some "ORDER BY (SELECT 1)"

inductive Known where
  | ansi
  | postgres
  | mysql
  | h2
  | sqlServer
deriving DecidableEq

namespace Known

def all : List Known :=
  [ansi, postgres, mysql, h2, sqlServer]

def dialect : Known → Dialect
  | ansi => Dialect.ansi
  | postgres => Dialect.postgres
  | mysql => Dialect.mysql
  | h2 => Dialect.h2
  | sqlServer => Dialect.sqlServer

def name (known : Known) : String :=
  known.dialect.name

/-- The dialect of exactly this name. -/
def ofName? (name : String) : Option Known :=
  all.find? (·.name == name)

/-- Some dialects go by other names, too. -/
def ofAlias? : String → Option Known
  | "postgresql" => some postgres
  | "mariadb" => some mysql
  | "mssql" => some sqlServer
  | name => ofName? name

/-- The dialect named in `text`, in whatever case and with white space around
it. -/
def read (text : String) : Except Error Known :=
  let name := (Text.trim text).map Char.toLower
  match ofAlias? name with
  | some known => .ok known
  | none => .error (.invalidArgument (.unknownDialect name))

instance : Inhabited Known := ⟨ansi⟩

end Known

end SqlStatement.Dialect
