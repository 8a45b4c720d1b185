import PostfixCalc.Text.Cluster
import PostfixCalc.Text.Width

namespace PostfixCalc

/-- A line that is being edited. The cursor stands in front of a cluster and is counted in clusters;
every cut is made between two clusters. -/
structure Line where
  text : Text
  cursor : Nat
  deriving DecidableEq, Repr

namespace Line

def empty : Line := ⟨[], 0⟩

/-- A line with its cursor at the end. -/
def ofText (s : Text) : Line := ⟨s, (Text.clusters s).length⟩

def size (l : Line) : Nat := (Text.clusters l.text).length

/-- The code points in front of the `n`-th cluster. -/
def textBefore (l : Line) (n : Nat) : Text := l.text.take (Text.clusterOffset l.text n)

/-- The code points from the `n`-th cluster on. -/
def textFrom (l : Line) (n : Nat) : Text := l.text.drop (Text.clusterOffset l.text n)

/-- Puts a code point at the cursor. The cursor moves on if the line has a cluster more; a mark
that joins what is there leaves it. -/
def insert (l : Line) (c : Char) : Line :=
  let text := l.textBefore l.cursor ++ c :: l.textFrom l.cursor
  ⟨text, if l.size < (Text.clusters text).length then l.cursor + 1 else l.cursor⟩

def backspace (l : Line) : Line :=
  if l.cursor = 0 then l
  else ⟨l.textBefore (l.cursor - 1) ++ l.textFrom l.cursor, l.cursor - 1⟩

def delete (l : Line) : Line :=
  if l.size ≤ l.cursor then l
  else ⟨l.textBefore l.cursor ++ l.textFrom (l.cursor + 1), l.cursor⟩

def left (l : Line) : Line := { l with cursor := l.cursor - 1 }

def right (l : Line) : Line := { l with cursor := min (l.cursor + 1) l.size }

def home (l : Line) : Line := { l with cursor := 0 }

def toEnd (l : Line) : Line := { l with cursor := l.size }

def isBlankCluster (cluster : Text) : Bool := cluster.all Text.isBlank

/-- Moves to the beginning of the word before the cursor. -/
def wordLeft (l : Line) : Line :=
  let before := ((Text.clusters l.text).take l.cursor).reverse
  let beforeWord := (before.dropWhile isBlankCluster).dropWhile (!isBlankCluster ·)
  { l with cursor := beforeWord.length }

/-- Moves behind the word at the cursor and the blanks after it. -/
def wordRight (l : Line) : Line :=
  let after := (Text.clusters l.text).drop l.cursor
  let word := after.takeWhile (!isBlankCluster ·)
  let blanks := (after.dropWhile (!isBlankCluster ·)).takeWhile isBlankCluster
  { l with cursor := l.cursor + word.length + blanks.length }

def widthBefore (l : Line) (n : Nat) : Nat := Text.width (l.textBefore n)

def cursorWidth (l : Line) : Nat := l.widthBefore l.cursor

/-- At most `count` clusters, from the `skip`-th on. -/
def visible (l : Line) (skip count : Nat) : Text :=
  (((Text.clusters l.text).drop skip).take count).flatten

end Line

end PostfixCalc
