/-
What an evaluation reads and changes.

The context holds the scope chain, the pool and the log of calls.  An evaluation
turns a context into a result and a new context, or runs out of the depth it was
given; running out is told apart from every value.
-/
import TemplateExpr.Pool

namespace TemplateExpr

/-! ### Scopes

The global scope is always there; frames are opened and closed on top of it.  A name
means its innermost definition, a new definition goes into the innermost scope, and
closing a frame when none is open changes nothing.
-/

/-- The global scope and the open frames, the innermost first. -/
structure Scopes where
  globals : Dict Value
  frames : List (Dict Value)

namespace Scopes

/-- The value of a name in the innermost scope that defines it. -/
def find? (s : Scopes) (name : String) : Option Value :=
  match s.frames.findSome? (Dict.get? name) with
  | some v => some v
  | none => Dict.get? name s.globals

/-- Defines a name in the innermost scope. -/
def define (s : Scopes) (name : String) (v : Value) : Scopes :=
  match s.frames with
  | [] => { s with globals := Dict.insert name v s.globals }
  | frame :: frames => { s with frames := Dict.insert name v frame :: frames }

/-- Opens a frame. -/
def push (s : Scopes) : Scopes := { s with frames := .nil :: s.frames }

/-- Closes the innermost frame; the global scope stays. -/
def pop (s : Scopes) : Scopes := { s with frames := s.frames.tail }

end Scopes

/-! ### Contexts -/

/-- The state of one render. -/
structure Context where
  scopes : Scopes
  pool : Pool
  /-- The tags of the functions called so far, and a note for each call that failed to bind. -/
  calls : Array String

/-- A context with the given globals and nothing else. -/
def Context.ofGlobals (globals : Dict Value) : Context := ⟨⟨globals, []⟩, .empty, #[]⟩

instance : Inhabited Context := ⟨.ofGlobals .nil⟩

/-- A computation in a context; `none` means it ran out of depth. -/
abbrev EvalM := StateT Context Option

namespace EvalM

def outOfDepth {α : Type} : EvalM α := fun _ => none

/-- Makes a value of a payload and keeps what needs keeping in the pool. -/
def create (data : Payload Value) : EvalM Value := fun c =>
  let (v, pool) := (Pool.create data).run c.pool
  some (v, { c with pool })

def lookup (name : String) : EvalM (Option Value) := fun c => some (c.scopes.find? name, c)

def define (name : String) (v : Value) : EvalM Unit := fun c =>
  some ((), { c with scopes := c.scopes.define name v })

def pushScope : EvalM Unit := fun c => some ((), { c with scopes := c.scopes.push })

def popScope : EvalM Unit := fun c => some ((), { c with scopes := c.scopes.pop })

/-- Adds a line to the log of calls. -/
def note (line : String) : EvalM Unit := fun c => some ((), { c with calls := c.calls.push line })

end EvalM

end TemplateExpr
