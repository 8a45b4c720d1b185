import PostfixCalc.CommandLine

namespace PostfixCalc.Program

/-- The bytes of a stream up to a line feed or its end. -/
partial def readLine (input : IO.FS.Stream) (before : ByteArray) : IO ByteArray := do
  let more ← input.read 1
  let bytes := before ++ more
  if more.isEmpty || more == ⟨#[10]⟩ then return bytes else readLine input bytes

/-- The bytes of a stream up to its end. -/
partial def readAll (input : IO.FS.Stream) (before : ByteArray) : IO ByteArray := do
  let more ← input.read 65536
  if more.isEmpty then return before else readAll input (before ++ more)

def write (output : IO.FS.Stream) (s : Text) : IO Unit := do
  output.putStr (String.ofList s)
  output.flush

/-- Answers the lines of a stream as they come in. The result is the exit code. -/
partial def answerLines (input output : IO.FS.Stream) (s : Stack) : IO Nat := do
  let bytes ← readLine input .empty
  match Text.byteLines bytes.toList with
  | [] => return 0
  | line :: _ =>
    let (now, goesOn) := PlainSession.exchange s line
    write output now.output
    if goesOn then answerLines input output now.stack
    else return CommandLine.plainCode now

end PostfixCalc.Program

open PostfixCalc PostfixCalc.Program

def main (args : List String) : IO UInt32 := do
  let input ← IO.getStdin
  let output ← IO.getStdout
  let args := args.map String.toList
  match CommandLine.read args with
  | .run s =>
    if s.mode = some .plain then
      write output (PlainSession.banner (!s.noBanner))
      return .ofNat (← answerLines input output [])
    else if ← input.isTty then
      let typed ← readAll input .empty
      let result := CommandLine.onTerminal 80 24 ((Text.decode? typed.toList).getD []) s
      write output result.output
      return .ofNat result.code
    else
      return .ofNat CommandLine.failureCode
  | _ =>
    let result := CommandLine.answer args (CommandLine.onStreams [])
    write output result.output
    return .ofNat result.code
