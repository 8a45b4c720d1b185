import PostfixCalc.Screen.Box
import PostfixCalc.Screen.Row
import PostfixCalc.Screen.Paragraph

namespace PostfixCalc

namespace HelpScreen

def line (s : String) : StyledLine := [.raw (Text.lit s)]

def title (s : String) : StyledLine := [⟨Text.lit s, .strong .green⟩]

def heading (s : String) : StyledLine := [⟨Text.lit s, .marked .cyan⟩]

def empty : StyledLine := []

def lines : List StyledLine :=
  [ title "RPN Calculator - Reverse Polish Notation",
    empty,
    line "Operands come first, the operator follows them.",
    line "Values wait on the stack until an operator consumes the top two.",
    empty,
    heading "Operators:",
    line "  + : Addition        (e.g., 5 3 + = 8)",
    line "  - : Subtraction     (e.g., 10 4 - = 6)",
    line "  * : Multiplication  (e.g., 6 7 * = 42)",
    line "  / : Division        (e.g., 15 3 / = 5)",
    empty,
    heading "Input:",
    line "  One value or operator per line is applied right away.",
    line "  Several tokens on one line run as a single step:",
    line "  if any of them fails, the stack stays as it was.",
    line "  Division by zero and overflow are refused.",
    empty,
    heading "Commands:",
    line "  reset : Empty the stack",
    line "  exit  : Leave the calculator",
    line "  help  : Show this help screen",
    empty,
    heading "Keys:",
    line "  ← → : Move cursor left/right",
    line "  Ctrl+←/→ : Move cursor by words",
    line "  Home/End : Move to start/end of line",
    line "  ↑ ↓ : Recall previous input",
    line "  PgUp/PgDn, mouse wheel : Scroll the transcript",
    line "  Ctrl+U : Clear current input",
    line "  Ctrl+C : Quit",
    line "  Esc/F1 : Close this screen",
    empty,
    heading "Examples:",
    line "  8 17 -        → -9",
    line "  2 3 4 * +     → 14",
    line "  1.5 2 /       → 0.75" ]

def box : Box where
  symbols := .double
  base := CellStyle.untouched.patch { background := some .black }
  border := .colored .yellow
  title := Text.lit " RPN Calculator Help "

/-- The screen with the text from the row `scroll` on. Rows are counted in sixteen bits. -/
def frame (scroll width height : Nat) : Frame where
  rows := box.around width height
    (Paragraph.wrapped box.base .left (Box.inner width) (Box.inner height) (min scroll 65535) lines)
  cursor := none

end HelpScreen

end PostfixCalc
