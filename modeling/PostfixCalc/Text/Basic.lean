namespace PostfixCalc

abbrev Text := List Char

namespace Text

/-- The text of a literal. It is a function of its own so that a literal stays whole until its code
points are asked for. -/
def lit (s : String) : Text := s.toList

/-- White space, in the sense of the Unicode property of that name. -/
def isBlank (c : Char) : Bool :=
  let n := c.toNat
  decide (0x09 ≤ n ∧ n ≤ 0x0D) || n == 0x20 || n == 0x85 || n == 0xA0 || n == 0x1680 ||
    decide (0x2000 ≤ n ∧ n ≤ 0x200A) || n == 0x2028 || n == 0x2029 || n == 0x202F ||
    n == 0x205F || n == 0x3000

/-- Puts an item in front of the first list, which it makes if there is none. -/
def consFirst {α : Type} (a : α) : List (List α) → List (List α)
  | [] => [[a]]
  | l :: ls => (a :: l) :: ls

def beginsChunk : Text → Bool
  | [] => false
  | c :: _ => !isBlank c

/-- The chunks of a text, from left to right: its maximal runs without blanks. -/
def chunks : Text → List Text
  | [] => []
  | c :: s =>
    if isBlank c then chunks s
    else if beginsChunk s then consFirst c (chunks s)
    else [c] :: chunks s

def trimEnd : Text → Text
  | [] => []
  | c :: s =>
    let t := trimEnd s
    if t.isEmpty && isBlank c then [] else c :: t

def trim (s : Text) : Text := trimEnd (s.dropWhile isBlank)

def isDigit (c : Char) : Bool := decide ('0' ≤ c) && decide (c ≤ '9')

def digitValue (c : Char) : Nat := c.toNat - '0'.toNat

def digitsValue (s : Text) : Nat := s.foldl (fun n c => 10 * n + digitValue c) 0

/-- Reads a row of digits, at least one. -/
def digits? (s : Text) : Option Nat :=
  if s ≠ [] ∧ s.all isDigit then some (digitsValue s) else none

/-- Reads a natural number: digits, with a plus in front or without. -/
def natural? : Text → Option Nat
  | [] => none
  | c :: s => if c = '+' then digits? s else digits? (c :: s)

/-- Cuts a text at its separators. There is one field more than there are separators. -/
def fields (separator : Char) : Text → List Text
  | [] => [[]]
  | c :: s => if c = separator then [] :: fields separator s else consFirst c (fields separator s)

/-- The lines of a stream. A line ends at a line feed, and a carriage return right before it is
dropped; bytes after the last line feed are a line too. -/
def byteLines : List UInt8 → List (List UInt8)
  | [] => []
  | 10 :: s => [] :: byteLines s
  | 13 :: 10 :: s => [] :: byteLines s
  | b :: s => consFirst b (byteLines s)

/-- The text that bytes encode, if they are well formed. -/
def decode? (bytes : List UInt8) : Option Text :=
  (String.fromUTF8? ⟨bytes.toArray⟩).map String.toList

def encode (s : Text) : List UInt8 := (String.ofList s).toUTF8.toList

namespace Property

/-- A set of code points as closed intervals, in ascending order. -/
abbrev Ranges := List (Nat × Nat)

/-- Whether the code point of `c` lies in one of the intervals. -/
def Ranges.holds (table : Ranges) (c : Char) : Bool :=
  table.any fun interval => decide (interval.1 ≤ c.toNat) && decide (c.toNat ≤ interval.2)

end Property

end Text

end PostfixCalc
