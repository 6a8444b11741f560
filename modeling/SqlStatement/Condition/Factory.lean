import SqlStatement.Tree

/-!
# Making conditions

What is checked when a condition is made: raw text is not blank, and an IN has
an argument.
-/

namespace SqlStatement.Condition.Factory

def comparison (left : Expr) (comparator : Comparator) (right : Expr) :
    Condition :=
  .comparison left comparator right

def isEqual (left right : Expr) : Condition :=
  comparison left .eq right

def isNotEqual (left right : Expr) : Condition :=
  comparison left .ne right

def isLess (left right : Expr) : Condition :=
  comparison left .lt right

def isLessOrEqualTo (left right : Expr) : Condition :=
  comparison left .le right

def isGreater (left right : Expr) : Condition :=
  comparison left .gt right

def isGreaterOrEqualTo (left right : Expr) : Condition :=
  comparison left .ge right

/-- Compares with the operator that is written in `operator`. -/
def compare (left : Expr) (operator : String) (right : Expr) :
    Except Error Condition :=
  (comparison left · right) <$> Comparator.read operator

def like (left right : Expr) : Condition :=
  .like left right

def inArgs (left : Expr) (args : List Expr) (negated : Bool) :
    Except Error Condition := do
  require (!args.isEmpty) .noInArgument
  return .inList left args negated

def inOne (left arg : Expr) : Condition :=
  .inList left [arg] false

def inList (left : Expr) (args : List Expr) : Except Error Condition :=
  inArgs left args false

def inSelect (left : Expr) (select : Select) : Condition :=
  inOne left (.subSelect select)

def notInOne (left arg : Expr) : Condition :=
  .inList left [arg] true

def notInList (left : Expr) (args : List Expr) : Except Error Condition :=
  inArgs left args true

def notInSelect (left : Expr) (select : Select) : Condition :=
  notInOne left (.subSelect select)

def isNull (operand : Expr) : Condition :=
  .isNull operand false

def isNotNull (operand : Expr) : Condition :=
  .isNull operand true

/-- Puts a condition in parentheses. -/
def nest (inner : Condition) : Condition :=
  .nested inner

/-- Text that goes into the statement as it stands. -/
def just (text : String) : Except Error Condition := do
  require (!Text.isBlank text) .blankRawCondition
  return .raw text

def and (left right : Condition) : Condition :=
  .and left right

def or (left right : Condition) : Condition :=
  .or left right

def not (inner : Condition) : Condition :=
  .not inner

end SqlStatement.Condition.Factory
