import CloudConf.Disk.Listing
import CloudConf.Proofs.CommandRuns

/-! # What a run writes -/
namespace CloudConf.Command

open Disk (Begins Framed Limits Step)

/-- The files that a product is written to. -/
def outputs (dir : Path) (p : Product) : List Path := p.files.map fun f => dir.child f.1

variable {d d' : Disk} {dir : Path} {p : Product}

end CloudConf.Command
