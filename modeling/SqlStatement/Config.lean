import SqlStatement.Dialect.Known
import SqlStatement.Json
import SqlStatement.Style

/-!
# Configuration

A configuration chooses the dialect and the quoting mode.  Its JSON text is an
object with the fields `dialect` and `quoting`, or the list of their values in
this order; what is left out has its default.  An object may have other fields,
which are ignored, but it may not name one of the two twice.  A value is the
name of a dialect or a mode, or an object that has this name as its only field,
with the value null.
-/

namespace SqlStatement

structure Config where
  dialect : Dialect.Known := default
  quoting : Quoting := default
deriving Inhabited

namespace Config

/-- The name that a field's value gives. -/
def choice? : Json.Value → Option String
  | .string text => text
  | .object [(name, .null)] => name
  | _ => none

def dialect? (value : Json.Value) : Option Dialect.Known :=
  choice? value >>= Dialect.Known.ofName?

def quoting? (value : Json.Value) : Option Quoting :=
  choice? value >>= Quoting.ofName?

/-- The value of the field `name` in `fields`, or else the default; two such
fields are refused. -/
def field? [Inhabited α] (read? : Json.Value → Option α) (name : String)
    (fields : List (String × Json.Value)) : Option α :=
  match fields.filter (·.1 == name) with
  | [] => some default
  | [field] => read? field.2
  | _ => none

def ofJson? : Json.Value → Option Config
  | .array [] => some default
  | .array [dialect] => do
      return ⟨← dialect? dialect, default⟩
  | .array [dialect, quoting] => do
      return ⟨← dialect? dialect, ← quoting? quoting⟩
  | .object fields => do
      let fields ← fields.mapM fun (name, value) => name.map (·, value)
      return ⟨← field? dialect? "dialect" fields,
        ← field? quoting? "quoting" fields⟩
  | _ => none

/-- The configuration in a JSON text. -/
def ofText? (text : String) : Option Config :=
  Json.parse? text >>= ofJson?

/-- The configuration as JSON; none of the names has a character to be escaped.
-/
def text (config : Config) : String :=
  "\x7b\"dialect\":\"" ++ config.dialect.name ++ "\",\"quoting\":\"" ++
    config.quoting.name ++ "\"\x7d"

def style (config : Config) : Style :=
  ⟨config.dialect.dialect, config.quoting⟩

end Config

end SqlStatement
