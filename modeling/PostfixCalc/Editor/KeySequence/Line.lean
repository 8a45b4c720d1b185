import PostfixCalc.Editor.KeySequence

namespace PostfixCalc.KeySequence.Line

def plain (c : Char) : Key :=
  if c = '\n' ∨ c = '\r' then .plain .enter
  else if c = '\t' then .typed '\t'
  else if c = '\x00' then .plain .null
  else single c

def escaped (c : Char) : Key := { code := .char c, alt := true }

/-- Several bytes that are to become a code point. After four of them it is given up. -/
def wide (key : Char → Key) (s : Text) : KeyReading :=
  match codePoint? s with
  | some c => .done (some (key c))
  | none => if 4 ≤ s.length then .done none else .more

def character (key : Char → Key) : Text → KeyReading
  | [] => .more
  | [c] => if c.toNat < 0x80 then .done (some (key c)) else .more
  | s => wide key s

/-- The key of a letter after `ESC [`. -/
def key? (c : Char) : Option Key :=
  if c = 'Z' then some (.plain .backTab) else (letter? c).map .plain

def numberKey? (number : Text) (final : Char) : Option Key :=
  if final = '~' then ((Text.natural? number).bind numbered?).map .plain else none

/-- What follows `ESC [` and begins with a digit. -/
def parameters (s : Text) : KeyReading :=
  match s.getLast? with
  | some c => if isFinal c then .done (numberKey? s.dropLast c) else .more
  | none => .more

def sequence : Text → KeyReading
  | [] => .more
  | '[' :: s => oneMore (fun c => (consoleLetter? c).map .plain) s
  | 'M' :: s => skip isMouseTriple s
  | '<' :: s => skip isMouseReport s
  | c :: s => if Text.isDigit c then parameters (c :: s) else .done (key? c)

/-- How a session at a bare terminal reads keys: without modifiers inside sequences, and with return
and line feed the same. -/
def dialect : KeyDialect
  | '\x1b' :: 'O' :: s => oneMore (fun c => (functionLetter? c).map .plain) s
  | '\x1b' :: '[' :: s => sequence s
  | '\x1b' :: s => character escaped s
  | s => character plain s

end PostfixCalc.KeySequence.Line
