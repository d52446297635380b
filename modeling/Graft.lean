import Graft.Main
import Graft.Proofs.FileSystem.Walk
import Graft.Proofs.FileSystem.CanonicalPath
import Graft.Proofs.FileSystem.Layout
import Graft.Proofs.Block.Core
import Graft.Proofs.Block.Search
import Graft.Proofs.Block.Insertion
import Graft.Proofs.Edit.Commit
import Graft.Proofs.Edit.Run
import Graft.Proofs.Edit.Plan
import Graft.Proofs.Edit.Again
import Graft.Proofs.Edit.Interleaving
import Graft.Proofs.Edit.Blank
import Graft.Proofs.PatchFile.Step
import Graft.Proofs.PatchFile.Validation
import Graft.Proofs.PatchFile.Preview
import Graft.Proofs.PatchFile.InMemory
import Graft.Proofs.Edit.Present
import Graft.Proofs.PatchFile.Reapply
import Graft.Proofs.PatchFile.Sequence
import Graft.Proofs.PatchFile.Commute
import Graft.Proofs.Edit.Keeping
import Graft.Proofs.Edit.Recheck
import Graft.Proofs.Edit.Ending
import Graft.Proofs.Command.Effects
import Graft.Proofs.Condition.Grammar
import Graft.Proofs.Command.Preview
import Graft.Proofs.Command.Directory
import Graft.Proofs.Edit.Bodies
import Graft.Proofs.Pattern.Window
import Graft.Proofs.Pattern.Insertion
import Graft.Proofs.Pattern.Diagnosis
import Graft.Proofs.PatchFile.Issues
import Graft.Proofs.Condition.Entry
import Graft.Proofs.Pattern.Message
import Graft.Proofs.Command.Difference
