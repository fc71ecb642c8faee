/-
The functions expressions can call.

A function answers a value, computes one from its arguments, or writes output.  Its
definition holds expressions, and expressions hold values that may be functions; the
library breaks the circle by giving every definition a handle.
-/
import TemplateExpr.Expr

namespace TemplateExpr

/-- Where a function comes from. -/
inductive Origin where
  /-- Installed in the global scope. -/
  | global
  /-- Part of the engine, not to be called for its value. -/
  | special
  /-- Defined by a template, not to be called for its value. -/
  | template
  /-- Supplied with the data. -/
  | user
  deriving DecidableEq, Repr

/-- Whether a function may be called where a value is asked for. -/
def Origin.callable : Origin → Bool
  | .global => true
  | .user => true
  | .special => false
  | .template => false

/-- What a function does when it is called. -/
inductive Behaviour where
  /-- Answers a value without looking at its arguments. -/
  | answer (v : Value)
  /-- Binds its arguments and answers the value of an expression. -/
  | compute (formals : List Formal) (body : Expr)
  /-- Binds its arguments and writes expressions to the output. -/
  | emit (formals : List Formal) (writes : List Expr)

/-- A function: the tag it is logged with, where it comes from and what it does. -/
structure FunctionDef where
  tag : String
  origin : Origin
  behaviour : Behaviour

/-- Whether a function writes output instead of answering a value. -/
def FunctionDef.emits (f : FunctionDef) : Bool :=
  match f.behaviour with
  | .emit _ _ => true
  | _ => false

/-- The definitions behind function handles. -/
structure Library where
  functions : Array FunctionDef

namespace Library

def empty : Library := ⟨#[]⟩

/-- The definition behind a handle. -/
def find? (l : Library) (id : Nat) : Option FunctionDef := l.functions[id]?

/-- Adds a definition; its handle is the number of definitions before it. -/
def add (l : Library) (f : FunctionDef) : Library × Nat := (⟨l.functions.push f⟩, l.functions.size)

end Library

end TemplateExpr
