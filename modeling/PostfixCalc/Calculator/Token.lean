import PostfixCalc.Text.Basic
import PostfixCalc.Number.Numeral
import PostfixCalc.Number.Binary64

namespace PostfixCalc

inductive Operator
  | add
  | sub
  | mul
  | div
  deriving DecidableEq, Repr

namespace Operator

def symbol : Operator → Char
  | add => '+'
  | sub => '-'
  | mul => '*'
  | div => '/'

def ofText? : List Char → Option Operator
  | ['+'] => some add
  | ['-'] => some sub
  | ['*'] => some mul
  | ['/'] => some div
  | _ => none

/-- The rounded result, which need not be finite. -/
def eval : Operator → Binary64 → Binary64 → Binary64
  | add, x, y => x + y
  | sub, x, y => x - y
  | mul, x, y => x * y
  | div, x, y => x / y

end Operator

inductive Token
  | number (value : Binary64)
  | operator (op : Operator)
  | invalid (chunk : Text)
  deriving DecidableEq, Repr

namespace Token

/-- The finite number that a chunk writes. -/
def readNumber? (chunk : Text) : Option Binary64 :=
  ((Numeral.read? chunk).map Numeral.toBinary64).filter Binary64.isFinite

/-- What a chunk means. An operator is never a number, since a sign alone has no digits. -/
def classify (chunk : Text) : Token :=
  match Operator.ofText? chunk with
  | some op => operator op
  | none =>
    match readNumber? chunk with
    | some value => number value
    | none => invalid chunk

def isValid : Token → Bool
  | invalid _ => false
  | _ => true

def invalidChunk? : Token → Option Text
  | invalid chunk => some chunk
  | _ => none

end Token

def tokens (s : Text) : List Token := (Text.chunks s).map Token.classify

end PostfixCalc
