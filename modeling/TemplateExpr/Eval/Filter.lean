/-
Applying filters and asking testers.

A filter sees the text of its input, evaluates its arguments in the order of its
parameters and yields a temporary value whose text has the input's width.  It is
applied even when its arguments failed to bind; a parameter that is not bound reads as
empty, and so does the argument of a tester.
-/
import TemplateExpr.Eval.Basic
import TemplateExpr.Text.Percent
import TemplateExpr.Text.Search
import TemplateExpr.Text.Truncate
import TemplateExpr.Value.Equality

namespace TemplateExpr

/-! ### Filters -/

/-- The characters of a text argument; any other value reads as the empty text. -/
def Value.argChars (v : Value) : List Char :=
  match v.asText? with
  | some t => t.chars
  | none => []

namespace Filter

/-- What a filter makes of a text, with the arguments bound to its parameters. -/
def payload (sub : Evaluator) (f : Filter) (b : Binding Expr) (t : Text) : EvalM (Payload Value) :=
  match f with
  | .trim => pure (.text (t.mapChars Trim.normalize))
  | .title => pure (.text (t.mapChars Words.capitalize))
  | .wordCount => pure (.int (Int64.ofNat (Words.count t.chars)))
  | .upper => pure (.text (t.mapChars (·.map Char.toUpper)))
  | .lower => pure (.text (t.mapChars (·.map Char.toLower)))
  | .replace => do
    let old ← b.value sub "old"
    let new ← b.value sub "new"
    let count ← b.value sub "count"
    pure (.text (t.mapChars (Search.replace old.argChars new.argChars (count.toInt 0))))
  | .truncate => do
    let length ← b.value sub "length"
    let killWords ← b.value sub "killwords"
    let ending ← b.value sub "end"
    let leeway ← b.value sub "leeway"
    pure (.text (t.mapChars (Truncate.truncate (length.toInt 0) killWords.truthy ending.argChars
      (leeway.toInt 5))))
  | .urlEncode => pure (.text (Percent.encode t))

/-- Applies a filter to a value. -/
def apply (env : Env) (sub : Evaluator) (f : Filter) (args : CallArgs Expr) (base : Value) :
    EvalM Value := do
  let data ← f.payload sub (bind f.formals args) (base.toOwnText env.width)
  let v ← EvalM.create data
  pure v.asTemporary

end Filter

/-! ### Testers -/

/-- Whether a value is an element of a list, a key of a map or a part of a text. -/
def Value.memberOf (v seq : Value) : Bool :=
  match seq.data with
  | .list l => l.any fun item => item.equal v
  | .map m => v.asText?.any fun key => m.hasKey key.toPlain
  | .text t => v.asText?.any fun part => Search.occurs part.chars t.chars
  | _ => false

/-- Asks a tester about a value. -/
def Tester.apply (sub : Evaluator) (t : Tester) (args : CallArgs Expr) (v : Value) : EvalM Bool :=
  match t with
  | .mem => do
    let seq ← (bind t.formals args).value sub "seq"
    pure (v.memberOf seq)
  | .defined => pure (!v.isEmpty)
  | .undefined => pure v.isEmpty

end TemplateExpr
