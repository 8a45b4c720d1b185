import PostfixCalc.Calculator.LogFilter
import PostfixCalc.CommandLine
import PostfixCalc.Main
import PostfixCalc.Proofs.Calculator.Expression
import PostfixCalc.Proofs.Editor.Checked
import PostfixCalc.Proofs.Editor.Halves
import PostfixCalc.Proofs.App.Recorded
import PostfixCalc.Proofs.Session.TypedLines
import PostfixCalc.Proofs.Session.SharedKeys
import PostfixCalc.Proofs.Calculator.Displayed
import PostfixCalc.Proofs.Session.PlainLines
import PostfixCalc.Proofs.App.CursorColumn
import PostfixCalc.Proofs.App.TranscriptRows
import PostfixCalc.Proofs.App.Paging
import PostfixCalc.Proofs.App.Viewing
import PostfixCalc.Proofs.Editor.Walk
import PostfixCalc.Proofs.Number.Nearest
import PostfixCalc.Proofs.Calculator.Classification
import PostfixCalc.Proofs.App.Entering
import PostfixCalc.Proofs.Text.Columns
import PostfixCalc.Proofs.Text.Wrapping
import PostfixCalc.Proofs.App.Coloring
import PostfixCalc.Proofs.Calculator.Deeper
import PostfixCalc.Proofs.Calculator.Operations
import PostfixCalc.Proofs.App.Redrawing
import PostfixCalc.Proofs.Editor.Words
import PostfixCalc.Proofs.Editor.Columns
import PostfixCalc.Proofs.App.StackRows
import PostfixCalc.Proofs.Number.DisplayForm
import PostfixCalc.Proofs.Text.FewestLines
import PostfixCalc.Proofs.Calculator.Refusals
import PostfixCalc.Proofs.Calculator.Records
