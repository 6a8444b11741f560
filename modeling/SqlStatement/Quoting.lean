/-!
# Quoting modes
-/

namespace SqlStatement

/-- Which identifiers are quoted: those that are declared so, all of them, or
none. -/
inductive Quoting where
  | asDeclared
  | always
  | never
deriving DecidableEq

namespace Quoting

def applies : Quoting → Bool → Bool
  | asDeclared, declared => declared
  | always, _ => true
  | never, _ => false

def name : Quoting → String
  | asDeclared => "as-declared"
  | always => "always"
  | never => "never"

def ofName? (name : String) : Option Quoting :=
  [asDeclared, always, never].find? (·.name == name)

instance : Inhabited Quoting := ⟨asDeclared⟩

end Quoting

end SqlStatement
