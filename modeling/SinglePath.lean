import SinglePath.Main
import SinglePath.Proofs.Argument.RoundTrip
import SinglePath.Proofs.Diff.ChangeBlocks
import SinglePath.Proofs.Diff.Framing
import SinglePath.Proofs.Divergence
import SinglePath.Proofs.Flags.Tokens
import SinglePath.Proofs.Order.Reordering
import SinglePath.Proofs.Report.Blame
import SinglePath.Proofs.Report.Padding
import SinglePath.Proofs.Report.Rendering
import SinglePath.Proofs.Report.Truncation
import SinglePath.Proofs.Schedule.Coverage
import SinglePath.Proofs.Summary.Lossless
import SinglePath.Proofs.Toolchain.Resolution
import SinglePath.Toolchain.Scripted
