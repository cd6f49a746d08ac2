import LogicEditor.Main
import LogicEditor.Proofs.Completion.Builtin
import LogicEditor.Proofs.Completion.Slot
import LogicEditor.Proofs.Document.Accept
import LogicEditor.Proofs.Document.Failure
import LogicEditor.Proofs.Document.Repaint
import LogicEditor.Proofs.Document.Usable
import LogicEditor.Proofs.Language.Extension
import LogicEditor.Proofs.Language.Label
import LogicEditor.Proofs.Rope.Refine
import LogicEditor.Proofs.Buffer.Made
import LogicEditor.Proofs.Search.Find
import LogicEditor.Proofs.Search.Replace
import LogicEditor.Proofs.Search.Literal
import LogicEditor.Proofs.Search.OneByOne
import LogicEditor.Proofs.Search.WholeWord
import LogicEditor.Proofs.Buffer.Block
import LogicEditor.Proofs.Buffer.Toggle
import LogicEditor.Proofs.Buffer.Inverse
import LogicEditor.Proofs.Buffer.TabStop
import LogicEditor.Proofs.Document.CommentedOut
import LogicEditor.Proofs.Document.Passes
import LogicEditor.Proofs.Document.Opening
import LogicEditor.Proofs.Document.Order
import LogicEditor.Proofs.Buffer.TokenCache
import LogicEditor.Proofs.Language.TableIndex
import LogicEditor.Proofs.Buffer.Unsaved
import LogicEditor.Proofs.Buffer.TabOverflow
import LogicEditor.Proofs.CommandLine.FindReplace
