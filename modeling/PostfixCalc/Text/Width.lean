import PostfixCalc.Text.Ligature
import PostfixCalc.Text.Property.Emoji

namespace PostfixCalc.Text

/-- Controls have no width of their own. -/
def isControl (c : Char) : Bool :=
  decide (c.toNat < 0x20) || decide (0x7F ≤ c.toNat ∧ c.toNat ≤ 0x9F)

/-- The Khmer sign that stands for "and so on", written out in three letters. -/
def isBeyyal (c : Char) : Bool := c.toNat == 0x17D8

/-- The columns of one code point; none for a control. -/
def charWidth? (c : Char) : Option Nat :=
  if isControl c then none
  else if c.toNat < 0x80 then some 1
  else if Property.zeroWidth.holds c then some 0
  else if Property.wide.holds c then some 2
  else if isBeyyal c then some 3
  else some 1

/-- The columns of one code point by itself, a control taking one. -/
def charWidth (c : Char) : Nat := (charWidth? c).getD 1

def isEmojiSelector (c : Char) : Bool := c.toNat == 0xFE0F

def isTextSelector (c : Char) : Bool := c.toNat == 0xFE0E

/-- The mark that puts a key around the sign before it. -/
def isKeycap (c : Char) : Bool := c.toNat == 0x20E3

/-- Letters, digits and an end, not to be seen, that spell out the name of a flag. -/
def isTagLetter (c : Char) : Bool := decide (0xE0061 ≤ c.toNat ∧ c.toNat ≤ 0xE007A)

def isTagDigit (c : Char) : Bool := decide (0xE0030 ≤ c.toNat ∧ c.toNat ≤ 0xE0039)

def isTagEnd (c : Char) : Bool := c.toNat == 0xE007F

/-- The flag whose name is spelled out by tags behind it. -/
def isBlackFlag (c : Char) : Bool := c.toNat == 0x1F3F4

/-- The letters of which two name a flag. -/
def isRegional (c : Char) : Bool := decide (0x1F1E6 ≤ c.toNat ∧ c.toNat ≤ 0x1F1FF)

/-- Whether the text variation selector makes a code point narrow: a default emoji with a plain
form that is no ideograph in a frame. -/
def isTextSelectorBase (c : Char) : Bool :=
  Property.selectorBases.holds c && Property.defaultEmoji.holds c &&
    !decide (0x1F200 ≤ c.toNat ∧ c.toNat ≤ 0x1F2FF)

/-- The sequence that a text begins with, as far as a code point in front of it may change it. The
`columns` of an emoji are two, or none if it is hidden behind another one. -/
inductive Lead
  /-- What no code point in front changes. -/
  | plain (columns : Nat)
  | lineFeed
  /-- The emoji variation selector, with the letter behind it if there is one. -/
  | emojiSelector (letter : Option Ligature)
  | textSelector (letter : Option Ligature)
  /-- A skin tone modifier, an emoji by itself that may color the one before it. -/
  | modifier (columns : Nat)
  | emoji (columns : Nat)
  | regionals (n : Nat)
  /-- A joiner right before an emoji. -/
  | link
  /-- A keycap mark right before a link. -/
  | linkedKeycap
  /-- An emoji variation selector right before a link, or before a keycap mark that is. -/
  | linkedSelector
  /-- So many regional indicators right before a link. -/
  | linkedRegionals (n : Nat)
  /-- A closing tag right before a link, with so many letters in front of it and digits in front of
  these. -/
  | linkedTags (letters digits : Nat)
  | letter (l : Ligature)
  /-- The Kirat Rai vowel sign E. -/
  | vowelE
  /-- The Kirat Rai vowel sign Ai, or two E that make one. -/
  | vowelAi
  deriving DecidableEq, Repr

namespace Lead

/-- The columns of the sequence as it stands. Of regional indicators before a link two are hidden if
all of them are paired. -/
def columns : Lead → Nat
  | plain n | modifier n | emoji n | regionals n => n
  | lineFeed | link | linkedKeycap | linkedSelector | linkedTags _ _ => 0
  | linkedRegionals n => if n % 2 = 1 then n else n - 2
  | letter l => l.columns
  | emojiSelector l | textSelector l => l.elim 0 Ligature.columns
  | vowelE | vowelAi => 1

def isEmoji : Lead → Bool
  | modifier _ | emoji _ => true
  | regionals n | linkedRegionals n => decide (2 ≤ n)
  | plain _ | lineFeed | emojiSelector _ | textSelector _ => false
  | link | linkedKeycap | linkedSelector | linkedTags _ _ => false
  | letter _ | vowelE | vowelAi => false

/-- What an emoji or a modifier with so many columns begins; none for other code points. -/
def ofEmoji? (c : Char) (columns : Nat) : Option Lead :=
  if Property.emojiModifiers.holds c then some (modifier columns)
  else if Property.defaultEmoji.holds c then some (emoji columns)
  else none

def ofLetter? (c : Char) : Option Lead :=
  if c.toNat = 0x16D67 then some vowelE
  else if c.toNat = 0x16D68 then some vowelAi
  else (Ligature.ofLetter? c).map letter

/-- The sequence that a code point begins by itself. -/
def alone (c : Char) : Lead :=
  if c = '\n' then lineFeed
  else if isEmojiSelector c then emojiSelector none
  else if isTextSelector c then textSelector none
  else if isJoiner c then plain 0
  else if isRegional c then regionals 1
  else ((ofEmoji? c 2).or (ofLetter? c)).getD (plain (charWidth c))

/-- What a code point begins if the sequence behind it shows otherwise than it would alone: a
selector makes a sign an emoji or plain, and a joiner links to an emoji. Of three vowel signs E the
first two are an Ai. -/
def turned? (c : Char) : Lead → Option Lead
  | emojiSelector _ => if Property.selectorBases.holds c then some (emoji 2) else none
  | textSelector _ => if isTextSelectorBase c then some (plain 1) else none
  | vowelE => if c.toNat = 0x16D68 then some vowelE else none
  | behind => if isJoiner c && behind.isEmoji then some link else none

/-- The sequence that a code point begins in front of another one. -/
def start (c : Char) (behind : Lead) : Lead := (behind.turned? c).getD (alone c)

/-- What a code point makes of a link behind it. -/
def extendLink? (c : Char) : Option Lead :=
  if isEmojiSelector c then some linkedSelector
  else if isKeycap c then some linkedKeycap
  else if isRegional c then some (linkedRegionals 1)
  else if isTagEnd c then some (linkedTags 0 0)
  else ofEmoji? c 0

/-- What a code point makes of a closing tag before a link: three digits and up to four letters in
turn, or three to six letters, name a flag if a black flag is in front. -/
def extendTags? (c : Char) (letters digits : Nat) : Option Lead :=
  if isTagLetter c && decide (digits = 0 ∧ letters < 6) then some (linkedTags (letters + 1) 0)
  else if isTagDigit c && decide (digits < 3 ∧ letters ≤ 4) then
    some (linkedTags letters (digits + 1))
  else if isBlackFlag c && decide (digits = 3 ∨ digits = 0 ∧ 3 ≤ letters) then some (emoji 0)
  else none

/-- What a code point makes of a letter behind it. -/
def extendLetter? (c : Char) (l : Ligature) : Option Lead :=
  if isEmojiSelector c then some (emojiSelector (some l))
  else if isTextSelector c then some (textSelector (some l))
  else if l.closing.holds c then some (plain l.closedColumns)
  else ((l.pass? c).or (l.sign? c)).map letter

/-- What a code point makes of the Kirat Rai vowel sign E behind it: Ai, O or Au. -/
def extendVowelE? (c : Char) : Option Lead :=
  if c.toNat = 0x16D67 then some vowelAi
  else if c.toNat = 0x16D63 ∨ c.toNat = 0x16D69 then some (plain 1)
  else none

/-- The sequence that a code point and the sequence behind it make together, if they make one. -/
def extend? (c : Char) : Lead → Option Lead
  | lineFeed => if c = '\r' then some (plain 0) else none
  | modifier n => if Property.modifierBases.holds c then some (emoji n) else none
  | regionals n => if isRegional c then some (regionals (n + 1)) else none
  | link => extendLink? c
  | linkedKeycap => if isEmojiSelector c then some linkedSelector else none
  | linkedSelector => if Property.selectorBases.holds c then some (emoji 0) else none
  | linkedRegionals n => if isRegional c then some (linkedRegionals (n + 1)) else none
  | linkedTags letters digits => extendTags? c letters digits
  | letter l => extendLetter? c l
  | emojiSelector l | textSelector l => l.bind (extendLetter? c)
  | vowelE => extendVowelE? c
  | vowelAi => if c.toNat = 0x16D63 then some (plain 1) else none
  | plain _ | emoji _ => none

/-- Puts a code point in front: the columns that are settled by it, and what the text begins with
then. -/
def cons (c : Char) (behind : Lead) : Nat × Lead :=
  match behind.extend? c with
  | some lead => (0, lead)
  | none => (behind.columns, start c behind)

end Lead

/-- The columns of a text that are settled, with what it begins with. The text is read from its end.
-/
def measure (s : Text) : Nat × Lead :=
  s.foldr (fun c rest => ((Lead.cons c rest.2).1 + rest.1, (Lead.cons c rest.2).2)) (0, .plain 0)

def width (s : Text) : Nat := (measure s).1 + (measure s).2.columns

end PostfixCalc.Text
