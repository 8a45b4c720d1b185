import PostfixCalc.Text.Basic
import PostfixCalc.Calculator.Process

namespace PostfixCalc

structure PlainSession where
  output : Text
  /-- What the calculator answered, the first answer first. -/
  replies : List Reply
  /-- The session ended at a line that is no text. -/
  unreadable : Bool
  stack : Stack
  deriving DecidableEq, Repr

namespace PlainSession

def written (lines : List Text) : Text := lines.flatMap (· ++ ['\n'])

/-- What went wrong when a line is no text. -/
def unreadableMessage : Text :=
  Text.lit "failed to read input line: stream did not contain valid UTF-8"

/-- What one line adds to a session, and whether the session goes on. -/
def exchange (s : Stack) (bytes : List UInt8) : PlainSession × Bool :=
  match Text.decode? bytes with
  | none => (⟨[], [], true, s⟩, false)
  | some line =>
    let out := Calculator.process s line
    let shown := written ((Calculator.prompt ++ line) :: out.reply.lines)
    (⟨shown, [out.reply], false, out.stack⟩, !out.reply.halts)

/-- The session from a stack over the lines that are left: every line is repeated behind the prompt
and followed by the reply, until the calculator halts or a line is no text. -/
def run (s : Stack) : List (List UInt8) → PlainSession
  | [] => ⟨[], [], false, s⟩
  | bytes :: rest =>
    let (now, goesOn) := exchange s bytes
    if goesOn then
      let later := run now.stack rest
      { later with output := now.output ++ later.output, replies := now.replies ++ later.replies }
    else now

def halted (session : PlainSession) : Bool := session.replies.any Reply.halts

def banner (isShown : Bool) : Text := if isShown then written Calculator.banner else []

/-- A whole session over a stream of bytes, with the banner in front if it is asked for. -/
def ofBytes (showBanner : Bool) (bytes : List UInt8) : PlainSession :=
  let session := run [] (Text.byteLines bytes)
  { session with output := banner showBanner ++ session.output }

end PlainSession

end PostfixCalc
