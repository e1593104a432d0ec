import AccessRules.Fault

/-!
# Operators

The operators of conditions, by the way in which they treat their operands.

* A `Choice` evaluates an operand only when its value is needed.
* A `Scope` goes through a list and evaluates an operand once for each item.
* A `Function` takes the values of all its operands.
-/

namespace AccessRules.Condition

/-- Operators that evaluate only what they need. -/
inductive Choice where
  /-- Conditions and results by turns, and a last result for when no condition holds. -/
  | branch
  /-- A condition and the results for when it holds and when it does not. -/
  | ternary
  /-- The first value that does not count as true, or the last one. -/
  | conjunction
  /-- The first value that counts as true, or the last one. -/
  | disjunction
  deriving DecidableEq, Repr

/-- Operators that evaluate an operand once for each item of a list. -/
inductive Scope where
  | filter
  | map
  | reduce
  | all
  | some
  | none
  deriving DecidableEq, Repr

/-- Operators on the values of their operands. -/
inductive Function where
  | var
  | missing
  | missingSome
  | equal
  | unequal
  | same
  | different
  | less
  | lessOrEqual
  | greater
  | greaterOrEqual
  | sum
  | difference
  | product
  | quotient
  | remainder
  | least
  | greatest
  | negation
  | truth
  | merge
  | count
  | isIn
  | concat
  | substring
  | method
  | log
  deriving DecidableEq, Repr

/-- An operator of conditions. -/
inductive Operator where
  | choice (choice : Choice)
  | scope (scope : Scope)
  | function (function : Function)
  deriving DecidableEq, Repr

/-- The operators and their names. -/
def operators : List (String × Operator) :=
  [("if", .choice .branch), ("?:", .choice .ternary), ("and", .choice .conjunction),
   ("or", .choice .disjunction),
   ("filter", .scope .filter), ("map", .scope .map), ("reduce", .scope .reduce),
   ("all", .scope .all), ("some", .scope .some), ("none", .scope .none),
   ("var", .function .var), ("missing", .function .missing),
   ("missing_some", .function .missingSome),
   ("==", .function .equal), ("!=", .function .unequal), ("===", .function .same),
   ("!==", .function .different), ("<", .function .less), ("<=", .function .lessOrEqual),
   (">", .function .greater), (">=", .function .greaterOrEqual),
   ("+", .function .sum), ("-", .function .difference), ("*", .function .product),
   ("/", .function .quotient), ("%", .function .remainder), ("min", .function .least),
   ("max", .function .greatest), ("!", .function .negation), ("!!", .function .truth),
   ("merge", .function .merge), ("count", .function .count), ("in", .function .isIn),
   ("cat", .function .concat), ("substr", .function .substring), ("method", .function .method),
   ("log", .function .log)]

/-- The operator of a name. -/
def Operator.ofName? (name : String) : Option Operator := operators.lookup name

end AccessRules.Condition
