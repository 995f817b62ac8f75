import Respell.Outcome
import Respell.Text
import Respell.Text.Range
import Respell.Text.Word
import Respell.Text.Printable
import Respell.Text.Blank
import Respell.Text.Quoted
import Respell.Text.Base64
import Respell.Text.Cased
import Respell.Text.Lower
import Respell.Base
import Respell.Numeral
import Respell.Literal
import Respell.View
import Respell.Sort
import Respell.Table
import Respell.Bitfield
import Respell.Log
import Respell.Guard
import Respell.Edit
import Respell.Respelling
import Respell.Text.Utf8
import Respell.Files.Path
import Respell.Files
import Respell.Language
import Respell.Highlight
import Respell.Document
import Respell.Document.Storage
import Respell.Navigation
import Respell.Binary64
import Respell.Calendar
import Respell.Yaml.Error
import Respell.Yaml.Cursor
import Respell.Yaml.Quoted
import Respell.Yaml.Plain
import Respell.Yaml.Block
import Respell.Numeral.Integer
import Respell.Yaml.Tag
import Respell.Yaml.Token
import Respell.Yaml.Implicit
import Respell.Yaml.Graph
import Respell.Yaml.Node
import Respell.Yaml.Scalar
import Respell.Yaml.Value
import Respell.Yaml.Written
import Respell.Yaml.Read
import Respell.Yaml.Write
import Respell.Settings
import Respell.Settings.Storage
import Respell.Failure
import Respell.Session
import Respell.Document.Typing
import Respell.Screen
import Respell.Editor
import Respell.Editor.Keys
import Respell.Editor.Drawing
import Respell.CommandLine.Grammar
import Respell.CommandLine.Arguments
import Respell.CommandLine.Console
import Respell.CommandLine.Jobs
import Respell.CommandLine.Sitting
import Respell.CommandLine
import Respell.Log.Stamp
import Respell.Screen.Ansi
import Respell.Screen.Keyboard
import Respell.Main
import Respell.Proofs.EditSets
import Respell.Proofs.Lines
import Respell.Proofs.Keystrokes
import Respell.Proofs.History
import Respell.Proofs.Filing
import Respell.Proofs.Numerals
import Respell.Proofs.Scanning
import Respell.Proofs.Layout
import Respell.Proofs.Changes
import Respell.Proofs.Cycling
import Respell.Proofs.CursorKept
import Respell.Proofs.LineByLine
import Respell.Proofs.Survival
import Respell.Proofs.UnsavedMark
import Respell.Proofs.Grammar
import Respell.Proofs.Selection
import Respell.Proofs.Dialog
import Respell.Proofs.LookBehind
import Respell.Proofs.BulkRespelling
import Respell.Proofs.BulkOrder
import Respell.Proofs.CutWords
import Respell.Proofs.Turns
import Respell.Proofs.Paging
import Respell.Proofs.Limits
import Respell.Proofs.FormatStep
import Respell.Proofs.Returns
import Respell.Proofs.Leaving
import Respell.Proofs.Utf8Bytes
import Respell.Proofs.FileTree
import Respell.Proofs.LoadedSettings
import Respell.Proofs.TypedIntegers
import Respell.Proofs.HeldTrees
import Respell.Proofs.SettingsKept
import Respell.Proofs.Woven
import Respell.Proofs.Rewritten
import Respell.Proofs.FileLog
import Respell.Proofs.InPlace
import Respell.Proofs.FinalNewline
import Respell.Proofs.BothWays
import Respell.Proofs.Touching
import Respell.Proofs.Places
import Respell.Proofs.Segments
import Respell.Proofs.Frames
import Respell.Proofs.WindowRule
import Respell.Proofs.GoingRound
import Respell.Proofs.Requests
import Respell.Proofs.SameBytes
import Respell.Proofs.FailedLoad
import Respell.Proofs.CanonicalSpelling
import Respell.Proofs.ShownValues
import Respell.Proofs.SettingsFaults
import Respell.Proofs.CodeWindow
import Respell.Proofs.BytesAndBits
import Respell.Proofs.CursorCalls
