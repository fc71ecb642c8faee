/-
The operators of the expression language and the symbols they are written with.
-/
namespace TemplateExpr

/-- Operators between two operands. -/
inductive BinaryOp where
  | and
  | or
  | eq
  | ne
  | gt
  | lt
  | ge
  | le
  | mem
  | add
  | sub
  | mul
  | div
  | mod
  | floorDiv
  | pow
  | concat
  deriving DecidableEq, Repr

namespace BinaryOp

/-- Every operator, logical ones first, then comparison, membership, arithmetic and text. -/
def all : List BinaryOp :=
  [.and, .or, .eq, .ne, .gt, .lt, .ge, .le, .mem, .add, .sub, .mul, .div, .mod, .floorDiv, .pow,
    .concat]

/-- The symbol an operator is written with. -/
def symbol : BinaryOp → String
  | .and => "and"
  | .or => "or"
  | .eq => "=="
  | .ne => "!="
  | .gt => ">"
  | .lt => "<"
  | .ge => ">="
  | .le => "<="
  | .mem => "in"
  | .add => "+"
  | .sub => "-"
  | .mul => "*"
  | .div => "/"
  | .mod => "%"
  | .floorDiv => "//"
  | .pow => "**"
  | .concat => "~"

/-- The operator written with a symbol. -/
def ofSymbol? (s : String) : Option BinaryOp := all.find? (·.symbol == s)

end BinaryOp

/-- Operators before one operand. -/
inductive UnaryOp where
  | not
  | neg
  | pos
  deriving DecidableEq, Repr

namespace UnaryOp

def all : List UnaryOp := [.not, .neg, .pos]

/-- The symbol an operator is written with. -/
def symbol : UnaryOp → String
  | .not => "not"
  | .neg => "-"
  | .pos => "+"

/-- The operator written with a symbol. -/
def ofSymbol? (s : String) : Option UnaryOp := all.find? (·.symbol == s)

end UnaryOp

end TemplateExpr
