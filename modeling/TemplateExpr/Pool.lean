/-
The pool of payloads built during one render.

Every text, list or map that an evaluation step hands out is put into the pool, which
only grows and is dropped as a whole at the end.  Payloads that need no storage of
their own take no slot.
-/
import TemplateExpr.Value.Basic

namespace TemplateExpr

/-- A payload the pool keeps. -/
inductive Slot where
  | text (t : Text)
  | list (l : ListSource Value)
  | map (m : MapSource Value)

/-- The slot a payload takes in the pool, if it takes one. -/
def Payload.slot? : Payload Value → Option Slot
  | .text t => some (.text t)
  | .list l => some (.list l)
  | .map m => some (.map m)
  | _ => none

/-- The payloads kept so far, the oldest first. -/
structure Pool where
  slots : Array Slot

namespace Pool

def empty : Pool := ⟨#[]⟩

instance : Inhabited Pool := ⟨empty⟩

/-- The number of payloads kept. -/
def size (p : Pool) : Nat := p.slots.size

def isEmpty (p : Pool) : Bool := p.slots.isEmpty

/-- Keeps a payload. -/
def keep (p : Pool) (data : Payload Value) : Pool :=
  match data.slot? with
  | some slot => ⟨p.slots.push slot⟩
  | none => p

/-- Makes a value of a payload and keeps what needs keeping. -/
def create (data : Payload Value) : StateM Pool Value := do
  modify (·.keep data)
  pure (.of data)

theorem size_keep (p : Pool) (data : Payload Value) :
    (p.keep data).size = p.size + if data.slot?.isSome then 1 else 0 := by
  unfold keep size
  cases data.slot? <;> simp

end Pool

end TemplateExpr
