import PostfixCalc.Text.Basic
import PostfixCalc.Editor.Key

namespace PostfixCalc

/-- What the bytes that have been taken in amount to. -/
inductive KeyReading
  /-- The beginning of something longer. -/
  | more
  /-- Something complete, which may be no key. -/
  | done (key : Option Key)
  deriving DecidableEq, Repr

/-- What a host takes bytes for, given that they are complete with the last of them at the
earliest. The bytes stand here as the code points of the same numbers. -/
abbrev KeyDialect := Text → KeyReading

namespace KeySequence

/-- The keys in a stream of bytes, some of which have been taken in already. -/
def keysFrom (d : KeyDialect) (taken : Text) : Text → List Key
  | [] => []
  | b :: s =>
    match d (taken ++ [b]) with
    | .more => keysFrom d (taken ++ [b]) s
    | .done key => key.toList ++ keysFrom d [] s

/-- The bytes of a text, as code points of the same numbers. -/
def bytes (s : Text) : Text := (Text.encode s).map Char.ofUInt8

def codePoint? (s : Text) : Option Char :=
  match Text.decode? (s.map Char.toUInt8) with
  | some [c] => some c
  | _ => none

def keys (d : KeyDialect) (typed : Text) : List Key := keysFrom d [] (bytes typed)

def control (c : Char) : Key := { code := .char c, control := true }

/-- The key of a code point outside of sequences, where the hosts agree. -/
def single (c : Char) : Key :=
  let n := c.toNat
  if n = 0x7F then .plain .backspace
  else if 0x01 ≤ n ∧ n ≤ 0x1A then control (Char.ofNat (n - 0x01 + 'a'.toNat))
  else if 0x1C ≤ n ∧ n ≤ 0x1F then control (Char.ofNat (n - 0x1C + '4'.toNat))
  else .typed c

/-- The key of a letter that ends a sequence. -/
def letter? : Char → Option KeyCode
  | 'A' => some .up
  | 'B' => some .down
  | 'C' => some .right
  | 'D' => some .left
  | 'H' => some .home
  | 'F' => some .endOfLine
  | _ => none

/-- The function key of a letter after `ESC O`. -/
def functionLetter? : Char → Option KeyCode
  | 'P' => some (.function 1)
  | 'Q' => some (.function 2)
  | 'R' => some (.function 3)
  | 'S' => some (.function 4)
  | _ => none

/-- The function key of a letter after `ESC [ [`. -/
def consoleLetter? : Char → Option KeyCode
  | 'A' => some (.function 1)
  | 'B' => some (.function 2)
  | 'C' => some (.function 3)
  | 'D' => some (.function 4)
  | 'E' => some (.function 5)
  | _ => none

/-- The key of a number that ends in a tilde. -/
def numbered? (n : Nat) : Option KeyCode :=
  if n = 1 ∨ n = 7 then some .home
  else if n = 2 then some .insert
  else if n = 3 then some .delete
  else if n = 4 ∨ n = 8 then some .endOfLine
  else if n = 5 then some .pageUp
  else if n = 6 then some .pageDown
  else if 11 ≤ n ∧ n ≤ 15 then some (.function (n - 10))
  else if 17 ≤ n ∧ n ≤ 21 then some (.function (n - 11))
  else if 23 ≤ n ∧ n ≤ 24 then some (.function (n - 12))
  else none

/-- Whether a byte ends a sequence that has begun with a digit. -/
def isFinal (c : Char) : Bool := decide (64 ≤ c.toNat ∧ c.toNat ≤ 126)

/-- Bytes that one more byte completes, whatever it is. -/
def oneMore (key? : Char → Option Key) : Text → KeyReading
  | [] => .more
  | c :: _ => .done (key? c)

/-- Bytes that mean no key and are complete as soon as `isComplete` says so. -/
def skip (isComplete : Text → Bool) (s : Text) : KeyReading :=
  if isComplete s then .done none else .more

def isMouseTriple (s : Text) : Bool := decide (3 ≤ s.length)

/-- Whether a report of the mouse in numbers is complete. Its last letter tells a button going down
from one going up. -/
def isMouseReport (s : Text) : Bool := s.getLast? == some 'M' || s.getLast? == some 'm'

end KeySequence

end PostfixCalc
