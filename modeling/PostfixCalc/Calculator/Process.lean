import PostfixCalc.Calculator.Reply
import PostfixCalc.Calculator.Record

namespace PostfixCalc

namespace Calculator

def name : Text := Text.lit "rpn"

/-- What stands in front of a line that is being asked for. -/
def prompt : Text := name ++ Text.lit "> "

def exitCommand : Text := Text.lit "exit"

def resetCommand : Text := Text.lit "reset"

def farewell : Text := Text.lit "Thanks for using RPN Calculator"

def banner : List Text :=
  [ Text.lit "",
    Text.lit "Welcome to RPN Calculator!",
    Text.lit "",
    Text.lit "Please notice,",
    Text.lit "if you want to quit type \"exit\"",
    Text.lit "if you want to reset calculator type \"reset\"",
    Text.lit "Any unknown or ilegal expression will be ignored",
    Text.lit "and it will not affect the operation in progress!",
    Text.lit "" ]

structure Outcome where
  reply : Reply
  stack : Stack
  record : Option Record
  deriving DecidableEq, Repr

/-- Begins anew: the banner, and an empty stack whatever was there before. -/
def init (_ : Stack) : List Text × Stack := (banner, [])

/-- Evaluates an expression: the text of the new top or an error, and the stack that is left. -/
def evaluate (s : Stack) (expression : Text) : Except EvalError Text × Stack :=
  match s.evaluate expression with
  | .ok s' => (.ok s'.shown, s')
  | .error e => (.error e, s)

def processExpression (s : Stack) (expression : Text) : Outcome :=
  match evaluate s expression with
  | (.ok shown, s') => ⟨.line shown, s', some (.committed expression s'.length)⟩
  | (.error e, s') =>
    let alone := (Text.chunks expression)[1]?.isNone
    ⟨.rejected (.ofError alone e), s', some (.rejected expression e)⟩

/-- Processes a line. A command stands alone on its line. -/
def process (s : Stack) (line : Text) : Outcome :=
  let input := Text.trim line
  if input = exitCommand then ⟨.farewell farewell, s, none⟩
  else if input = resetCommand then ⟨.line (Stack.shown []), [], none⟩
  else if input = [] then ⟨.line [], s, none⟩
  else processExpression s input

end Calculator

end PostfixCalc
