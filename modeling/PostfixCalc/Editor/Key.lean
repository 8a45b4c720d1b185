namespace PostfixCalc

inductive KeyCode
  | char (c : Char)
  | enter
  | backspace
  | delete
  | insert
  | left
  | right
  | up
  | down
  | home
  | endOfLine
  | pageUp
  | pageDown
  | tab
  | backTab
  | escape
  | null
  | function (n : Nat)
  deriving DecidableEq, Repr

/-- A key with the modifiers held down. -/
structure Key where
  code : KeyCode
  control : Bool := false
  shift : Bool := false
  alt : Bool := false
  deriving DecidableEq, Repr

namespace Key

def plain (code : KeyCode) : Key := { code }

def typed (c : Char) : Key := plain (.char c)

end Key

end PostfixCalc
