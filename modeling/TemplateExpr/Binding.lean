/-
Matching the arguments of a call with the parameters of a function.

A parameter named by a keyword gets that keyword's argument.  The positional arguments
fill one window of the parameters still free.  The window is anchored at the first
free mandatory parameter and widened backward as long as arguments and free parameters
remain, then forward.  What is left of the free parameters takes its default, unless
it is mandatory, in which case it is missing.  Arguments nobody took are extra.

The markers `*args` and `**kwargs` among the parameters take nothing themselves, but
without a mandatory parameter the window is anchored at the first parameter no keyword
names, and a marker standing there keeps the window shut.
-/
import TemplateExpr.Value.Basic

namespace TemplateExpr

/-- A declared parameter. -/
structure Formal where
  name : String
  mandatory : Bool
  fallback : Option Value

namespace Formal

/-- A parameter that may stay unbound. -/
def optional (name : String) : Formal := ⟨name, false, none⟩

/-- A parameter a call must bind. -/
def required (name : String) : Formal := ⟨name, true, none⟩

/-- A parameter with a default. -/
def withFallback (name : String) (v : Value) : Formal := ⟨name, false, some v⟩

/-- Whether a parameter is one of the markers for extra arguments. -/
def isCatchAll (f : Formal) : Bool := f.name == "*args" || f.name == "**kwargs"

end Formal

/-- The arguments of a call. -/
structure CallArgs (ε : Type) where
  positional : List ε
  keyword : Dict ε

namespace CallArgs

variable {ε : Type}

def none : CallArgs ε := ⟨[], .nil⟩

/-- A single keyword argument. -/
def named (name : String) (e : ε) : CallArgs ε := ⟨[], .ofList [(name, e)]⟩

end CallArgs

/-- What a parameter is bound to: an argument of the call, or its default. -/
inductive Bound (ε : Type) where
  | given (e : ε)
  | fallback (v : Value)

/-- The outcome of matching arguments with parameters. -/
structure Binding (ε : Type) where
  /-- The bound parameters by name. -/
  args : Dict (Bound ε)
  /-- Positional arguments no parameter took, in order. -/
  extraPositional : List ε
  /-- Keyword arguments that name no parameter. -/
  extraKeyword : Dict ε
  /-- Mandatory parameters left unbound, in declaration order. -/
  missing : List String

/-- A binding succeeds when no mandatory parameter is missing. -/
def Binding.succeeded {ε : Type} (b : Binding ε) : Bool := b.missing.isEmpty

/-! ### Parameters by what the keywords leave of them

A parameter is named by a keyword, or free, or a marker, and only free ones are filled
by position.
-/

namespace Formal

variable {ε : Type}

/-- Whether a keyword argument names the parameter. -/
def isNamed (keyword : Dict ε) (f : Formal) : Bool := !f.isCatchAll && Dict.contains f.name keyword

/-- Whether a parameter is still free once the keywords are matched. -/
def isFree (keyword : Dict ε) (f : Formal) : Bool := !f.isCatchAll && !Dict.contains f.name keyword

end Formal

/-! ### The window of the positional arguments -/

/-- The free parameters around a window. -/
structure Window where
  /-- Those before the window, the nearest first. -/
  before : List Formal
  inside : List Formal
  after : List Formal

namespace Window

/-- A window that takes nothing. -/
def shut (free : List Formal) : Window := ⟨[], [], free⟩

/-- Widens a window by up to `n` parameters, backward first and then forward. -/
def widen : (n : Nat) → Window → Window
  | 0, w => w
  | n + 1, ⟨f :: before, inside, after⟩ => widen n ⟨before, f :: inside, after⟩
  | n + 1, ⟨[], inside, f :: after⟩ => widen n ⟨[], inside ++ [f], after⟩
  | _ + 1, ⟨[], inside, []⟩ => ⟨[], inside, []⟩

/-- The window of one parameter that positional arguments start from, if there is one. -/
def anchor? {ε : Type} (formals : List Formal) (keyword : Dict ε) : Option Window :=
  let free := formals.filter (·.isFree keyword)
  let optionals := free.takeWhile fun f => !f.mandatory
  match free.dropWhile fun f => !f.mandatory with
  | head :: after => some ⟨optionals.reverse, [head], after⟩
  | [] =>
    match formals.dropWhile (·.isNamed keyword), free with
    | first :: _, head :: after => if first.isCatchAll then none else some ⟨[], [head], after⟩
    | _, _ => none

/-- The window `count` positional arguments fill. -/
def ofCount {ε : Type} (formals : List Formal) (keyword : Dict ε) (count : Nat) : Window :=
  match count, anchor? formals keyword with
  | n + 1, some w => w.widen n
  | _, _ => shut (formals.filter (·.isFree keyword))

/-- The free parameters outside the window, in declaration order. -/
def outside (w : Window) : List Formal := w.before.reverse ++ w.after

end Window

/-! ### Binding -/

section

variable {ε : Type}

/-- The parameters that keywords name, with their arguments. -/
def namedArgs (formals : List Formal) (keyword : Dict ε) : List (String × Bound ε) :=
  (formals.filter (·.isNamed keyword)).filterMap fun f =>
    (Dict.get? f.name keyword).map fun e => (f.name, .given e)

/-- The parameters of a window with the positional arguments that fill them. -/
def windowArgs (w : Window) (positional : List ε) : List (String × Bound ε) :=
  (w.inside.map (·.name)).zip (positional.map .given)

/-- The default a parameter takes when nothing is bound to it; an empty one is none. -/
def Formal.default? (f : Formal) : Option Value :=
  if f.mandatory then none else f.fallback.filter fun v => !v.isEmpty

/-- The parameters that take their defaults. -/
def defaultArgs (unfilled : List Formal) : List (String × Bound ε) :=
  unfilled.filterMap fun f => f.default?.map fun v => (f.name, .fallback v)

/-- Matches arguments with parameters. -/
def bind (formals : List Formal) (call : CallArgs ε) : Binding ε :=
  let w := Window.ofCount formals call.keyword call.positional.length
  let args := Dict.ofList
    (namedArgs formals call.keyword ++ windowArgs w call.positional ++ defaultArgs w.outside)
  { args
    extraPositional := call.positional.drop w.inside.length
    extraKeyword := .ofList (call.keyword.entries.filter fun e => !Dict.contains e.1 args)
    missing := (w.outside.filter (·.mandatory)).map (·.name) }

end

end TemplateExpr
