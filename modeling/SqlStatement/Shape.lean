import SqlStatement.Error
import SqlStatement.Walk

/-!
# The shape of a statement

A tree put together by hand may hold parts that no checked way of making them
admits: blank raw text, a function without a name, a float that is no finite
number, an IN without arguments.  The check goes through the whole tree,
statements in parentheses included, and reports the first such part in writing
order.
-/

namespace SqlStatement

def Expr.checkShape : Expr → Except Error Unit
  | .raw text => require (!Text.isBlank text) .blankRawText
  | .function name _ => require (!Text.isBlank name) .blankFunctionName
  | .literal (.float value) => require value.isFinite (.nonFiniteFloat value)
  | _ => .ok ()

def Condition.checkShape : Condition → Except Error Unit
  | .raw text => require (!Text.isBlank text) .blankRawText
  | .inList _ args _ => require (!args.isEmpty) .emptyInList
  | _ => .ok ()

namespace Node

/-- The check of a node itself, whatever is below it. -/
def checkShape : Node → Except Error Unit
  | expr e => e.checkShape
  | condition c => c.checkShape
  | _ => .ok ()

/-- The check of a node and all that is below it, parents before their children.
-/
def checkShapes (node : Node) : Except Error Unit :=
  node.walk fun
    | .enter node => node.checkShape
    | .leave _ => .ok ()

end Node

end SqlStatement
