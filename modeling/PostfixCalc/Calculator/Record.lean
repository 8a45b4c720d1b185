import PostfixCalc.Text.Quoted
import PostfixCalc.Calculator.Stack

namespace PostfixCalc

/-- How much a record matters; as a threshold, what is let through. -/
inductive LogLevel
  | off
  | error
  | warn
  | info
  | debug
  | trace
  deriving DecidableEq, Repr

namespace LogLevel

/-- Thresholds in ascending order let through more and more. -/
def verbosity : LogLevel → Nat
  | off => 0
  | error => 1
  | warn => 2
  | info => 3
  | debug => 4
  | trace => 5

def name : LogLevel → Text
  | off => Text.lit "OFF"
  | error => Text.lit "ERROR"
  | warn => Text.lit "WARN"
  | info => Text.lit "INFO"
  | debug => Text.lit "DEBUG"
  | trace => Text.lit "TRACE"

end LogLevel

/-- What happened to a line that is no command. `input` is the line without the blanks at its
ends. -/
inductive Record
  | committed (input : Text) (depth : Nat)
  | rejected (input : Text) (error : EvalError)
  deriving DecidableEq, Repr

namespace Record

def level : Record → LogLevel
  | committed _ _ => .trace
  | rejected _ _ => .debug

/-- The part of the program that the records come from. -/
def target : Text := Text.lit "rpncalc::program"

/-- The names of what a record holds. What happened is a message of its own. -/
def fields : Record → List Text
  | committed _ _ => [Text.lit "message", Text.lit "input", Text.lit "depth"]
  | rejected _ _ => [Text.lit "message", Text.lit "input", Text.lit "error"]

/-- What happened, without level and target. -/
def body : Record → Text
  | committed input depth =>
    Text.lit "committed input=" ++ Text.quoted input ++ Text.lit " depth=" ++ Nat.toDigits 10 depth
  | rejected input error =>
    Text.lit "rejected input=" ++ Text.quoted input ++ Text.lit " error=" ++ error.message

def text (r : Record) : Text := r.level.name ++ ' ' :: target ++ Text.lit ": " ++ r.body

end Record

end PostfixCalc
