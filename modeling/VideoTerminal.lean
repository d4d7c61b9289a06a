import VideoTerminal.Config.Files
import VideoTerminal.Dispatch
import VideoTerminal.Keyboard.Input
import VideoTerminal.Proofs.Chunking
import VideoTerminal.Proofs.Drawing
import VideoTerminal.Proofs.Grid
import VideoTerminal.Proofs.Heir
import VideoTerminal.Proofs.Run
import VideoTerminal.Proofs.Scanning
import VideoTerminal.Screen.Draw
import VideoTerminal.Screen.Paragraph
import VideoTerminal.Sequence.Reading
import VideoTerminal.Session
import VideoTerminal.Terminal.Feed
import VideoTerminal.Proofs.Reset
import VideoTerminal.Proofs.AlternateScreen
import VideoTerminal.Proofs.Telling
import VideoTerminal.Proofs.Mirror
import VideoTerminal.Proofs.Scrollback
import VideoTerminal.Proofs.Margins
import VideoTerminal.Proofs.Decoding
import VideoTerminal.Proofs.PlainText
import VideoTerminal.Proofs.Repaint
import VideoTerminal.Proofs.Scrolling
import VideoTerminal.Proofs.Replies
import VideoTerminal.Proofs.Redrawing
import VideoTerminal.Proofs.Sizes
import VideoTerminal.Proofs.HiddenResize
import VideoTerminal.Proofs.Strict.Run
import VideoTerminal.Proofs.Reference
import VideoTerminal.Proofs.CsiText
import VideoTerminal.Proofs.TitleText
import VideoTerminal.Proofs.InnerControls
import VideoTerminal.Proofs.Aborting
import VideoTerminal.Proofs.ModeLists
import VideoTerminal.Proofs.CursorAddress
import VideoTerminal.Proofs.Regions
import VideoTerminal.Proofs.Lifecycle
import VideoTerminal.Proofs.Printable
import VideoTerminal.Proofs.WindowTop
import VideoTerminal.Proofs.RowShifts
import VideoTerminal.Proofs.LineWidths
import VideoTerminal.Proofs.Erasing
import VideoTerminal.Proofs.RenditionLists
import VideoTerminal.Proofs.WholeRegion
import VideoTerminal.Proofs.Saving
import VideoTerminal.Proofs.ResizeSeries
import VideoTerminal.Proofs.Reporting
import VideoTerminal.Proofs.Clipping
import VideoTerminal.Proofs.CommandMode
import VideoTerminal.Proofs.Typing
import VideoTerminal.Proofs.StopHistory
import VideoTerminal.Proofs.Trimming
import VideoTerminal.Proofs.Strict.Attempts
import VideoTerminal.Proofs.Strict.Nesting
import VideoTerminal.Proofs.Endless
