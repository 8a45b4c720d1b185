import PostfixCalc.Number.Notation
import PostfixCalc.Calculator.Token

namespace PostfixCalc

/-- Why an expression is refused. -/
inductive EvalError
  | unrecognized (chunk : Text)
  | tooFewValues (op : Operator)
  | notFinite (lhs : Binary64) (op : Operator) (rhs : Binary64)
  deriving DecidableEq, Repr

namespace EvalError

def message : EvalError → Text
  | unrecognized chunk => '\'' :: chunk ++ Text.lit "' is neither a number nor an operator"
  | tooFewValues op => '\'' :: op.symbol :: Text.lit "' needs two values on the stack"
  | notFinite lhs op rhs =>
    lhs.plainText ++ ' ' :: op.symbol :: ' ' :: rhs.plainText ++
      Text.lit " does not produce a finite value"

end EvalError

/-- A stack, its top first. -/
abbrev Stack := List Binary64

namespace Stack

/-- The values from the bottom to the top. -/
def values (s : Stack) : List Binary64 := s.reverse

/-- Puts a value on top. One that is not finite is refused as if it had been read. -/
def push (s : Stack) (v : Binary64) : Except EvalError Stack :=
  if v.isFinite then .ok (v :: s) else .error (.unrecognized v.plainText)

/-- Replaces the two topmost values by the second, the operator and the top. -/
def apply (op : Operator) : Stack → Except EvalError Stack
  | rhs :: lhs :: s =>
    let v := op.eval lhs rhs
    if v.isFinite then .ok (v :: s) else .error (.notFinite lhs op rhs)
  | _ => .error (.tooFewValues op)

/-- The text of the top, or of zero if there is none. -/
def shown : Stack → Text
  | [] => ['0']
  | v :: _ => v.displayText

def step (s : Stack) : Token → Except EvalError Stack
  | .number v => s.push v
  | .operator op => s.apply op
  | .invalid chunk => .error (.unrecognized chunk)

/-- What the tokens of a list do one after the other, up to the first error. -/
def run (s : Stack) : List Token → Except EvalError Stack
  | [] => .ok s
  | t :: ts =>
    match s.step t with
    | .ok s' => run s' ts
    | .error e => .error e

/-- What an expression does. One token is done at once; several are first looked over, since an
invalid one anywhere refuses them all, and are then done on a copy. -/
def evaluate (s : Stack) (expression : Text) : Except EvalError Stack :=
  match tokens expression with
  | [] => .ok s
  | [t] => s.step t
  | ts =>
    match ts.findSome? Token.invalidChunk? with
    | some chunk => .error (.unrecognized chunk)
    | none => s.run ts

end Stack

end PostfixCalc
