import PostfixCalc.Calculator.Stack

namespace PostfixCalc

/-- Why a line was refused, as the user is told. -/
inductive Rejection
  /-- The line is one chunk that means nothing. -/
  | notRecognized
  /-- Some chunk of a longer line means nothing. -/
  | notNumberOrOperator
  | notEnoughValues
  | invalidResult
  deriving DecidableEq, Repr

namespace Rejection

def message : Rejection → Text
  | notRecognized => Text.lit "(The input is not recognized)"
  | notNumberOrOperator => Text.lit "(One of the values is not a number or operator)"
  | notEnoughValues => Text.lit "(There are not enough values to process the operation)"
  | invalidResult => Text.lit "(One of the values is unprocessable by operator)"

/-- The rejection for an error. `alone` says that the line has no second chunk. -/
def ofError (alone : Bool) : EvalError → Rejection
  | .unrecognized _ => if alone then notRecognized else notNumberOrOperator
  | .tooFewValues _ => notEnoughValues
  | .notFinite _ _ _ => invalidResult

end Rejection

structure Reply where
  lines : List Text
  /-- The session ends with this answer. -/
  halts : Bool
  rejection : Option Rejection
  deriving DecidableEq, Repr

namespace Reply

def line (s : Text) : Reply := ⟨[s], false, none⟩

def farewell (s : Text) : Reply := ⟨[s], true, none⟩

def rejected (r : Rejection) : Reply := ⟨[r.message], false, some r⟩

def message (r : Reply) : Text := r.lines.headD []

end Reply

end PostfixCalc
