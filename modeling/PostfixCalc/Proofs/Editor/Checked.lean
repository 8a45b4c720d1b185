import PostfixCalc.Proofs.Editor.Edits
import PostfixCalc.Proofs.Text.Bytes

namespace PostfixCalc.Line

open Text (clusters encode decode? byteIndex)

/-- Goes back from a place over the clusters that `p` holds of. Each is looked up. -/
def skipBack? (p : Text → Bool) (cs : List Text) : Nat → Option Nat
  | 0 => some 0
  | n + 1 => do
    let c ← cs[n]?
    if p c then skipBack? p cs n else some (n + 1)

/-- Goes on from a place over the clusters that `p` holds of. Each is looked up. -/
def skipOn? (p : Text → Bool) (cs : List Text) (n : Nat) : Option Nat :=
  if n < cs.length then do
    let c ← cs[n]?
    if p c then skipOn? p cs (n + 1) else some n
  else some n
termination_by cs.length - n

def insert? (l : Line) (c : Char) : Option Line := do
  let bytes ← Text.insertAt? (encode l.text) (byteIndex l.text l.cursor) (String.utf8EncodeChar c)
  let text ← decode? bytes
  some ⟨text, if l.size < (clusters text).length then l.cursor + 1 else l.cursor⟩

def backspace? (l : Line) : Option Line :=
  if l.cursor = 0 then some l
  else do
    let bytes ← Text.drain? (encode l.text)
      (byteIndex l.text (l.cursor - 1)) (byteIndex l.text l.cursor)
    let text ← decode? bytes
    some ⟨text, l.cursor - 1⟩

def delete? (l : Line) : Option Line :=
  if l.size ≤ l.cursor then some l
  else do
    let bytes ← Text.drain? (encode l.text)
      (byteIndex l.text l.cursor) (byteIndex l.text (l.cursor + 1))
    let text ← decode? bytes
    some ⟨text, l.cursor⟩

def wordLeft? (l : Line) : Option Line := do
  let behindWord ← skipBack? isBlankCluster (clusters l.text) l.cursor
  let beforeWord ← skipBack? (!isBlankCluster ·) (clusters l.text) behindWord
  some { l with cursor := beforeWord }

def wordRight? (l : Line) : Option Line := do
  let behindWord ← skipOn? (!isBlankCluster ·) (clusters l.text) l.cursor
  let nextWord ← skipOn? isBlankCluster (clusters l.text) behindWord
  some { l with cursor := nextWord }

def widthBefore? (l : Line) (n : Nat) : Option Nat := do
  let bytes ← Text.sliceTo? (encode l.text) (byteIndex l.text n)
  let text ← decode? bytes
  some (Text.width text)

/-- An edit with its checks. The edits that neither cut nor look up have none. -/
def edit? (l : Line) : Edit → Option Line
  | .insert c => l.insert? c
  | .backspace => l.backspace?
  | .delete => l.delete?
  | .wordLeft => l.wordLeft?
  | .wordRight => l.wordRight?
  | e => some (l.edit e)

theorem skipBack?_eq (p : Text → Bool) (cs : List Text) {n : Nat} (hn : n ≤ cs.length) :
    skipBack? p cs n = some ((cs.take n).reverse.dropWhile p).length := by
  induction n with
  | zero => rfl
  | succ n ih =>
    have hlast : (cs.take (n + 1)).reverse = cs[n] :: (cs.take n).reverse := by
      rw [List.take_succ_eq_append_getElem hn, List.reverse_append]
      rfl
    rw [skipBack?, List.getElem?_eq_getElem hn, hlast, List.dropWhile_cons]
    change (if p cs[n] then skipBack? p cs n else some (n + 1)) = _
    split
    · exact ih (Nat.le_of_succ_le hn)
    · rw [List.length_cons, List.length_reverse, List.length_take,
        Nat.min_eq_left (Nat.le_of_succ_le hn)]

theorem skipOn?_eq (p : Text → Bool) (cs : List Text) (n : Nat) :
    skipOn? p cs n = some (n + ((cs.drop n).takeWhile p).length) := by
  fun_induction skipOn? p cs n with
  | case1 n hn ih =>
    rw [List.getElem?_eq_getElem hn, List.drop_eq_getElem_cons hn, List.takeWhile_cons]
    change (if p cs[n] then skipOn? p cs (n + 1) else some n) = _
    split
    · rw [ih, List.length_cons, Nat.add_assoc, Nat.add_comm 1]
    · rfl
  | case2 n hn =>
    rw [List.drop_eq_nil_of_le (Nat.le_of_not_lt hn)]
    rfl

theorem insert?_eq (l : Line) (c : Char) : l.insert? c = some (l.insert c) := by
  have hbytes : Text.insertAt? (encode l.text) (byteIndex l.text l.cursor)
      (String.utf8EncodeChar c) =
        some (encode (l.textBefore l.cursor ++ c :: l.textFrom l.cursor)) := by
    rw [Text.insertAt?, if_pos (Text.isBoundary_byteIndex _ _), Text.take_byteIndex,
      Text.drop_byteIndex, Text.encode_append, Text.encode_cons, List.append_assoc]
    rfl
  rw [insert?, hbytes, Option.bind_eq_bind, Option.bind_some, Text.decode?_encode]
  rfl

theorem drain?_eq (l : Line) {m n : Nat} (h : m ≤ n) :
    Text.drain? (encode l.text) (byteIndex l.text m) (byteIndex l.text n) =
      some (encode (l.textBefore m ++ l.textFrom n)) := by
  rw [Text.drain?, if_pos ⟨Text.byteIndex_mono _ h, Text.isBoundary_byteIndex _ _,
    Text.isBoundary_byteIndex _ _⟩, Text.take_byteIndex, Text.drop_byteIndex, Text.encode_append]
  rfl

theorem backspace?_eq (l : Line) : l.backspace? = some l.backspace := by
  rw [backspace?, backspace]
  split
  · rfl
  · rw [drain?_eq l (Nat.sub_le _ _), Option.bind_eq_bind, Option.bind_some, Text.decode?_encode]
    rfl

theorem delete?_eq (l : Line) : l.delete? = some l.delete := by
  rw [delete?, delete]
  split
  · rfl
  · rw [drain?_eq l (Nat.le_succ _), Option.bind_eq_bind, Option.bind_some, Text.decode?_encode]
    rfl

theorem widthBefore?_eq (l : Line) (n : Nat) : l.widthBefore? n = some (l.widthBefore n) := by
  rw [widthBefore?, Text.sliceTo?, if_pos (Text.isBoundary_byteIndex _ _), Text.take_byteIndex,
    Option.bind_eq_bind, Option.bind_some, Text.decode?_encode]
  rfl

theorem wordLeft?_eq {l : Line} (h : l.InRange) : l.wordLeft? = some l.wordLeft := by
  let cs := clusters l.text
  let before := (cs.take l.cursor).reverse.dropWhile isBlankCluster
  have hprefix : before.reverse <+: cs := by
    have hdropped : before.reverse <+: ((cs.take l.cursor).reverse).reverse :=
      List.reverse_prefix.mpr (List.dropWhile_suffix _)
    rw [List.reverse_reverse] at hdropped
    exact hdropped.trans (List.take_prefix _ _)
  have hbefore : before = (cs.take before.length).reverse := by
    have htake := List.prefix_iff_eq_take.mp hprefix
    rw [List.length_reverse] at htake
    rw [← htake, List.reverse_reverse]
  have hlength : before.length ≤ cs.length := by
    rw [← List.length_reverse]
    exact hprefix.length_le
  have hfirst := skipBack?_eq isBlankCluster cs h
  have hsecond := skipBack?_eq (!isBlankCluster ·) cs hlength
  rw [← hbefore] at hsecond
  rw [wordLeft?, hfirst, Option.bind_eq_bind, Option.bind_some, hsecond]
  rfl

theorem wordRight?_eq (l : Line) : l.wordRight? = some l.wordRight := by
  let cs := clusters l.text
  let word := (cs.drop l.cursor).takeWhile (!isBlankCluster ·)
  let rest := (cs.drop l.cursor).dropWhile (!isBlankCluster ·)
  have hrest : cs.drop (l.cursor + word.length) = rest := by
    calc cs.drop (l.cursor + word.length)
        = (cs.drop l.cursor).drop word.length := List.drop_drop.symm
      _ = (word ++ rest).drop word.length := by rw [List.takeWhile_append_dropWhile]
      _ = rest := List.drop_left
  rw [wordRight?, skipOn?_eq, Option.bind_eq_bind, Option.bind_some, skipOn?_eq, hrest]
  rfl

theorem edit?_eq {l : Line} (h : l.InRange) (e : Edit) : l.edit? e = some (l.edit e) := by
  cases e with
  | insert c => exact insert?_eq l c
  | backspace => exact backspace?_eq l
  | delete => exact delete?_eq l
  | wordLeft => exact wordLeft?_eq h
  | wordRight => exact wordRight?_eq l
  | _ => rfl

theorem foldlM_edit? {l : Line} (h : l.InRange) (es : List Edit) :
    es.foldlM edit? l = some (es.foldl edit l) := by
  induction es generalizing l with
  | nil => rfl
  | cons e es ih =>
    rw [List.foldlM_cons, edit?_eq h, Option.bind_eq_bind, Option.bind_some, ih (h.edit e)]
    rfl

/-- Edits with all their checks go through from an empty line on, and they lead to the same line as
without them. The cursor is in range of the clusters there, and each place in front of a cluster is
a boundary inside the bytes, in the order of the clusters. -/
theorem edited_checked (es : List Edit) :
    let l := edited es
    es.foldlM edit? empty = some l ∧
      l.cursor ≤ l.size ∧
      (∀ n, l.widthBefore? n = some (l.widthBefore n)) ∧
      (∀ n, Text.isBoundary (encode l.text) (byteIndex l.text n) = true ∧
        byteIndex l.text n ≤ (encode l.text).length) ∧
      (∀ m n, m ≤ n → byteIndex l.text m ≤ byteIndex l.text n) := by
  intro l
  refine ⟨foldlM_edit? (Nat.le_refl _) es, edited_inRange es, widthBefore?_eq l, ?_, ?_⟩
  · intro n
    exact ⟨Text.isBoundary_byteIndex l.text n, Text.byteIndex_le_length l.text n⟩
  · intro m n hmn
    exact Text.byteIndex_mono l.text hmn

end PostfixCalc.Line
