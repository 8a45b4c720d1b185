import PostfixCalc.Editor.KeySequence

namespace PostfixCalc.KeySequence.Screen

/-- The key of a code point outside of sequences. A line feed is the control key with a letter, as
its number says. -/
def plain (c : Char) : Key :=
  if c = '\r' then .plain .enter
  else if c = '\t' then .plain .tab
  else if c = '\x00' then control ' '
  else single c

def escaped (c : Char) : Key := { plain c with alt := true }

/-- The number of bytes of a code point, which its first byte tells. -/
def byteCount? (b : Char) : Option Nat :=
  let n := b.toNat
  if n < 0x80 then some 1
  else if n < 0xC0 then none
  else if n < 0xE0 then some 2
  else if n < 0xF0 then some 3
  else if n < 0xF8 then some 4
  else none

def isContinuation (b : Char) : Bool := decide (0x80 ≤ b.toNat ∧ b.toNat < 0xC0)

def mayGrow : Text → Bool
  | [] => true
  | b :: s => (byteCount? b).any (s.length + 1 < ·) && s.all isContinuation

def character (key : Char → Key) (s : Text) : KeyReading :=
  match codePoint? s with
  | some c => .done (some (key c))
  | none => if mayGrow s then .more else .done none

/-- The key of a letter after `ESC O`. -/
def applicationKey? (c : Char) : Option Key :=
  ((letter? c).orElse fun _ => functionLetter? c).map .plain

/-- The key of a letter after `ESC [`. -/
def key? (c : Char) : Option Key :=
  if c = 'Z' then some { code := .backTab, shift := true }
  else if c = 'R' then none
  else applicationKey? c

inductive Stroke
  | press
  | repeated
  | release
  deriving DecidableEq, Repr

namespace Stroke

/-- The stroke of a number. What is unknown is a press. -/
def ofNumber (n : Nat) : Stroke := if n = 2 then repeated else if n = 3 then release else press

end Stroke

/-- The keys that are held down with another one, and what happened to that. -/
structure Held where
  shift : Bool := false
  alt : Bool := false
  control : Bool := false
  stroke : Stroke := .press
  deriving DecidableEq, Repr

namespace Held

def nothing : Held := {}

/-- The modifiers of a number, which is one above their bits: shift, alt and control from the
lowest. -/
def ofMask (n : Nat) (stroke : Stroke) : Held :=
  let bits := n - 1
  { shift := bits % 2 = 1, alt := bits / 2 % 2 = 1, control := bits / 4 % 2 = 1, stroke }

/-- The key of a code together with what is held. Only a press counts. -/
def key? (h : Held) (code : KeyCode) : Option Key :=
  if h.stroke = .press then some { code, control := h.control, shift := h.shift, alt := h.alt }
  else none

end Held

def byte? (s : Text) : Option Nat := (Text.natural? s).filter (· < 256)

def field? (n : Nat) (fields : List Text) : Option Text := fields[n]?

def stroke (fields : List Text) : Stroke :=
  (((field? 1 fields).bind byte?).map Stroke.ofNumber).getD .press

/-- Reads modifiers, and a stroke behind a colon. -/
def held? (s : Text) : Option Held :=
  let fields := Text.fields ':' s
  ((field? 0 fields).bind byte?).map fun mask => .ofMask mask (stroke fields)

def secondHeld? (fields : List Text) : Option Held := (field? 1 fields).bind held?

/-- The modifiers of a sequence that ends in a letter. If the second field has none, the last digit
tells them. -/
def letterHeld? (parameters : Text) : Option Held :=
  match secondHeld? (Text.fields ';' parameters) with
  | some held => some held
  | none =>
    (parameters.getLast?.filter Text.isDigit).map fun c => .ofMask (Text.digitValue c) .press

def letterKey? (parameters : Text) (final : Char) : Option Key :=
  match letterHeld? parameters, (letter? final).orElse fun _ => functionLetter? final with
  | some held, some code => held.key? code
  | _, _ => none

def tildeKey? (parameters : Text) : Option Key :=
  let fields := Text.fields ';' parameters
  (((field? 0 fields).bind byte?).bind numbered?).bind
    ((secondHeld? fields).getD .nothing).key?

/-- The keys of the number pad, from 57399. -/
def padKeys : List KeyCode :=
  (Text.lit "0123456789./*-+").map .char ++ .enter :: (Text.lit "=,").map .char ++
    [.left, .right, .up, .down, .pageUp, .pageDown, .home, .endOfLine, .insert, .delete]

/-- Whether a number names a key that types nothing and has no meaning here. -/
def isIdle (n : Nat) : Bool :=
  decide (57358 ≤ n ∧ n ≤ 57363) || decide (57376 ≤ n ∧ n ≤ 57454)

def scalar? (n : Nat) : Option Char := if h : n.isValidChar then some (.ofNatAux n h) else none

def codeOf (shift : Bool) (c : Char) : KeyCode :=
  if c = '\x1b' then .escape
  else if c = '\r' then .enter
  else if c = '\t' then if shift then .backTab else .tab
  else if c = '\x7f' then .backspace
  else .char c

/-- The key of a number that ends in `u`: of the number pad, or a code point. -/
def numberCode? (shift : Bool) (n : Nat) : Option KeyCode :=
  if 57399 ≤ n ∧ n < 57399 + padKeys.length then padKeys[n - 57399]?
  else if isIdle n then some .null
  else (scalar? n).map (codeOf shift)

/-- The code point that a key gives together with shift, where the terminal tells it. -/
def shifted? (numbers : List Text) : Option Char :=
  ((field? 1 numbers).bind Text.natural?).bind scalar?

/-- The key of a code. With shift, the code point that shift gives takes the place of both. -/
def shiftedKey? (held : Held) (shifted : Option Char) (code : KeyCode) : Option Key :=
  match held.shift, shifted with
  | true, some c => { held with shift := false }.key? (.char c)
  | _, _ => held.key? code

def unicodeKey? (parameters : Text) : Option Key :=
  let fields := Text.fields ';' parameters
  let numbers := Text.fields ':' ((field? 0 fields).getD [])
  let held := (secondHeld? fields).getD .nothing
  (((field? 0 numbers).bind Text.natural?).bind (numberCode? held.shift)).bind
    (shiftedKey? held (shifted? numbers))

/-- The key of parameters and the byte that ends them. Reports of the mouse and the cursor are
none. -/
def parametersKey? (parameters : Text) (final : Char) : Option Key :=
  if final = '~' then tildeKey? parameters
  else if final = 'u' then unicodeKey? parameters
  else if final = 'M' ∨ final = 'R' then none
  else letterKey? parameters final

/-- What stands in front of a pasted text, after `ESC [`. -/
def pasteBegin : Text := Text.lit "200~"

def pasteEnd : Text := Text.lit "\x1b[201~"

/-- What follows `ESC [` and begins with a digit. -/
def parameters (s : Text) : KeyReading :=
  if pasteBegin.isPrefixOf s then skip (pasteEnd.isSuffixOf ·) s
  else
    match s.getLast? with
    | some c => if isFinal c then .done (parametersKey? s.dropLast c) else .more
    | none => .more

/-- Whether an answer of the terminal after `ESC [ ?` is complete. -/
def isAnswer (s : Text) : Bool :=
  s.getLast? == some 'c' || s.getLast? == some 'u' && decide (2 ≤ s.length)

def sequence : Text → KeyReading
  | [] => .more
  | '[' :: s => oneMore (fun c => (consoleLetter? c).map .plain) s
  | 'M' :: s => skip isMouseTriple s
  | '<' :: s => skip isMouseReport s
  | '?' :: s => skip isAnswer s
  | c :: s => if Text.isDigit c then parameters (c :: s) else .done (key? c)

/-- How a session on the full screen reads keys. Sequences may hold modifiers, and whether the key
has gone down or up. What is pasted, the mouse, and the terminal's answers give no keys. -/
def dialect : KeyDialect
  | '\x1b' :: '\x1b' :: _ => .done (some (.plain .escape))
  | '\x1b' :: 'O' :: s => oneMore applicationKey? s
  | '\x1b' :: '[' :: s => sequence s
  | '\x1b' :: s => character escaped s
  | s => character plain s

end PostfixCalc.KeySequence.Screen
