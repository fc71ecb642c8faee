/-
The expressions of the template language.

Expressions hold filters and testers by what they do, not by name, and constants may
be values of any kind.  A function among them is a handle whose definition stands in a
library beside the expression.
-/
import TemplateExpr.Filter
import TemplateExpr.Operator

namespace TemplateExpr

/-- One filter of a chain with its arguments. -/
structure FilterLink (ε : Type) where
  filter : Filter
  args : CallArgs ε

/-- The condition of a conditional expression and what it has otherwise. -/
structure Guard (ε : Type) where
  test : ε
  otherwise : Option ε

/-- Expressions. -/
inductive Expr where
  | const (v : Value)
  | var (name : String)
  /-- `base[i][j]…` -/
  | subscript (base : Expr) (indices : List Expr)
  /-- `base | f | g …`; the first filter of the chain is applied first. -/
  | filtered (base : Expr) (chain : List (FilterLink Expr))
  | unary (op : UnaryOp) (operand : Expr)
  | binary (op : BinaryOp) (left right : Expr)
  | tuple (items : List Expr)
  | dict (entries : List (String × Expr))
  /-- `subject is tester(args)` -/
  | test (subject : Expr) (tester : Tester) (args : CallArgs Expr)
  | call (callee : Expr) (args : CallArgs Expr)
  /-- `body if test else otherwise` -/
  | full (body : Option Expr) (guard : Option (Guard Expr))

instance : Inhabited Expr := ⟨.const .empty⟩

end TemplateExpr
