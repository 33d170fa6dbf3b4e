import GoEnum.Disk.World
import GoEnum.Main
import GoEnum.Proofs.Generation.Outcomes
import GoEnum.Proofs.Generation.Rendered
import GoEnum.Proofs.Generation.Sequence
import GoEnum.Proofs.Kind.Token
import GoEnum.Proofs.Lexeme.Spelling
import GoEnum.Proofs.Naming.Exported
import GoEnum.Proofs.Naming.FirstConflict
import GoEnum.Proofs.Naming.OwnConstant
import GoEnum.Proofs.Naming.SmallForms
import GoEnum.Proofs.Naming.SpecialNames
import GoEnum.Proofs.Program.Effect
import GoEnum.Proofs.Request.OutputFile
import GoEnum.Proofs.Source.Alignment
import GoEnum.Proofs.Source.Backing
import GoEnum.Proofs.Source.Capture
import GoEnum.Proofs.Source.Counting
import GoEnum.Proofs.Source.EmptyText
import GoEnum.Proofs.Source.Formatting
import GoEnum.Proofs.Source.Header
import GoEnum.Proofs.Source.PackageLevel
import GoEnum.Proofs.Settings.Document
