import PostfixCalc.Editor.KeySequence.Line
import PostfixCalc.Editor.KeySequence.Screen
import PostfixCalc.Session.Plain
import PostfixCalc.Session.Terminal

namespace PostfixCalc

/-- Where the calculator runs. -/
inductive Mode
  | plain
  | line
  | screen
  deriving DecidableEq, Repr

namespace Mode

def ofText? (s : Text) : Option Mode :=
  if s = Text.lit "plain" then some plain
  else if s = Text.lit "line" then some line
  else if s = Text.lit "tui" then some screen
  else none

end Mode

structure Settings where
  mode : Option Mode
  noBanner : Bool
  logLevel : Option Text
  deriving DecidableEq, Repr

namespace Settings

def default : Settings := ⟨none, false, none⟩

end Settings

inductive Request
  | run (settings : Settings)
  | shortHelp
  | longHelp
  | version
  | usageError
  deriving DecidableEq, Repr

namespace CommandLine

inductive Expecting
  | anything
  | mode
  | logLevel
  /-- After two hyphens by themselves only values follow, and there are none. -/
  | nothing
  deriving DecidableEq, Repr

/-- The settings so far and what is expected next, or a decision. -/
abbrev Progress := Except Request (Settings × Expecting)

/-- Sets the mode, once, by its exact name. -/
def setMode (s : Settings) (value : Text) : Progress :=
  match s.mode, Mode.ofText? value with
  | none, some mode => .ok ({ s with mode := some mode }, .anything)
  | _, _ => .error .usageError

/-- Sets the log level, once. Any text will do. -/
def setLogLevel (s : Settings) (value : Text) : Progress :=
  if s.logLevel.isSome then .error .usageError
  else .ok ({ s with logLevel := some value }, .anything)

/-- An option that was given by its long name, perhaps with a value behind an equals sign. -/
def longOption (s : Settings) (name : Text) (value : Option Text) : Progress :=
  match String.ofList name, value with
  | "help", none => .error .longHelp
  | "version", none => .error .version
  | "no-banner", none =>
    if s.noBanner then .error .usageError else .ok ({ s with noBanner := true }, .anything)
  | "mode", none => .ok (s, .mode)
  | "mode", some value => setMode s value
  | "log-level", none => .ok (s, .logLevel)
  | "log-level", some value => setLogLevel s value
  | _, _ => .error .usageError

def splitValue (s : Text) : Text × Option Text :=
  match s.dropWhile (· ≠ '=') with
  | [] => (s, none)
  | _ :: value => (s.takeWhile (· ≠ '='), some value)

/-- Reads one argument. A value never begins with a hyphen, unless it is the hyphen alone. -/
def step (progress : Settings × Expecting) (arg : Text) : Progress :=
  let (s, expecting) := progress
  match expecting, arg with
  | .nothing, _ => .error .usageError
  | .anything, ['-', '-'] => .ok (s, .nothing)
  | .anything, '-' :: '-' :: option =>
    let (name, value) := splitValue option
    longOption s name value
  | .anything, '-' :: 'h' :: _ => .error .shortHelp
  | .anything, '-' :: 'V' :: _ => .error .version
  | .anything, _ => .error .usageError
  | _, '-' :: _ :: _ => .error .usageError
  | .mode, value => setMode s value
  | .logLevel, value => setLogLevel s value

/-- What the arguments ask for. They are read from the left, and the first one that decides wins. -/
def read (args : List Text) : Request :=
  match args.foldlM step (Settings.default, .anything) with
  | .error request => request
  | .ok (_, .mode) | .ok (_, .logLevel) => .usageError
  | .ok (s, _) => .run s

def versionText : Text := Text.lit "rpncalc 0.1.0\n"

def shortHelp : Text := PlainSession.written <| List.map Text.lit
  [ "Reverse Polish Notation calculator",
    "",
    "Usage: rpncalc [OPTIONS]",
    "",
    "Options:",
    "      --mode <MODE>            Host to run the calculator in [default: tui] " ++
      "[possible values: plain, line, tui]",
    "      --no-banner              Skip the welcome banner",
    "      --log-level <LOG_LEVEL>  Tracing filter, e.g. `debug` (overrides RPNCALC_LOG)",
    "  -h, --help                   Print help (see more with '--help')",
    "  -V, --version                Print version" ]

def longHelp : Text := PlainSession.written <| List.map Text.lit
  [ "Reverse Polish Notation calculator",
    "",
    "Usage: rpncalc [OPTIONS]",
    "",
    "Options:",
    "      --mode <MODE>",
    "          Host to run the calculator in",
    "",
    "          Possible values:",
    "          - plain: Read lines from stdin, works with pipes",
    "          - line:  Raw terminal line editor",
    "          - tui:   Full screen interface",
    "          ",
    "          [default: tui]",
    "",
    "      --no-banner",
    "          Skip the welcome banner",
    "",
    "      --log-level <LOG_LEVEL>",
    "          Tracing filter, e.g. `debug` (overrides RPNCALC_LOG)",
    "",
    "  -h, --help",
    "          Print help (see a summary with '-h')",
    "",
    "  -V, --version",
    "          Print version" ]

/-- What a run of the program leaves: its exit code and what it wrote. -/
structure Result where
  code : Nat
  output : Text
  deriving DecidableEq, Repr

def usageCode : Nat := 2

def failureCode : Nat := 1

def plainCode (session : PlainSession) : Nat := if session.unreadable then failureCode else 0

/-- Runs what arguments ask for, given what a session with some settings would leave. -/
def answer (args : List Text) (session : Settings → Result) : Result :=
  match read args with
  | .run settings => session settings
  | .shortHelp => ⟨0, shortHelp⟩
  | .longHelp => ⟨0, longHelp⟩
  | .version => ⟨0, versionText⟩
  | .usageError => ⟨usageCode, []⟩

/-- A session whose input and output are streams. Only the plain session can do without a
terminal. -/
def onStreams (input : List UInt8) (s : Settings) : Result :=
  match s.mode.getD .screen with
  | .plain =>
    let session := PlainSession.ofBytes (!s.noBanner) input
    ⟨plainCode session, session.output⟩
  | .line | .screen => ⟨failureCode, []⟩

/-- A session at a terminal of some size, on which keys have been typed. -/
def onTerminal (width height : Nat) (typed : Text) (s : Settings) : Result :=
  match s.mode.getD .screen with
  | .plain => onStreams (Text.encode typed) s
  | .line =>
    let keys := KeySequence.keys KeySequence.Line.dialect typed
    ⟨0, TerminalSession.output (!s.noBanner) keys⟩
  | .screen =>
    let keys := KeySequence.keys KeySequence.Screen.dialect typed
    let app := ScreenSession.run width height (App.start (!s.noBanner)) keys
    ⟨0, PlainSession.written (ScreenSession.left app)⟩

end CommandLine

end PostfixCalc
