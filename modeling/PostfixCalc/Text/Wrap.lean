import PostfixCalc.Text.Width

namespace PostfixCalc.Text

/-- Cuts a chunk into pieces that fit, `piece` being the one under way and `used` its columns. Every
piece has at least one code point. -/
def cutFrom (limit : Nat) (piece : Text) (used : Nat) : Text → List Text
  | [] => [piece]
  | c :: s =>
    if limit < used + charWidth c ∧ piece ≠ [] then piece :: cutFrom limit [c] (charWidth c) s
    else cutFrom limit (piece ++ [c]) (used + charWidth c) s

/-- The pieces of a chunk that is too wide for a line. -/
def cutChunk (limit : Nat) (chunk : Text) : List Text := cutFrom limit [] 0 chunk

/-- Lines that are done, and the one under way with its columns. -/
structure Wrapped where
  done : List Text
  line : Text
  used : Nat
  deriving DecidableEq, Repr

namespace Wrapped

def start : Wrapped := ⟨[], [], 0⟩

def flush (w : Wrapped) : Wrapped := if w.line = [] then w else ⟨w.done ++ [w.line], [], 0⟩

def append (w : Wrapped) (chunk : Text) : Wrapped :=
  if w.line = [] then ⟨w.done, chunk, w.used + width chunk⟩
  else ⟨w.done, w.line ++ ' ' :: chunk, w.used + 1 + width chunk⟩

def step (limit : Nat) (w : Wrapped) (chunk : Text) : Wrapped :=
  if limit < width chunk then
    let w := w.flush
    { w with done := w.done ++ cutChunk limit chunk }
  else if limit < w.used + width chunk + 1 then w.flush.append chunk
  else w.append chunk

/-- All lines. There is at least one. -/
def lines (w : Wrapped) : List Text :=
  if w.line ≠ [] ∨ w.done = [] then w.done ++ [w.line] else w.done

end Wrapped

/-- Wraps a text at its blanks. Chunks are put on a line with one blank between them as long as they
fit; a chunk too wide for any line is cut between code points. -/
def wrap (s : Text) (limit : Nat) : List Text :=
  if limit = 0 then [[]] else ((chunks s).foldl (Wrapped.step limit) .start).lines

end PostfixCalc.Text
