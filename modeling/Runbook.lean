import Runbook.Text.CharSet
import Runbook.Text.Word
import Runbook.Text.Quoted
import Runbook.Text.Lower
import Runbook.Text.Phrase
import Runbook.Json.Text
import Runbook.Json.Reader
import Runbook.Program.Parse
import Runbook.Program.Shape
import Runbook.Step.Condition
import Runbook.Action.Instruction
import Runbook.Action.Registry
import Runbook.Time.Stamp
import Runbook.Options.Settings
import Runbook.Run.World
import Runbook.Main
import Runbook.Files.Tree
import Runbook.Proofs.Path
import Runbook.Proofs.Dispatch
import Runbook.Proofs.History
import Runbook.Proofs.Retained
import Runbook.Proofs.Continuity
import Runbook.Proofs.Cause
import Runbook.Proofs.Captured
import Runbook.Proofs.Likeness
import Runbook.Proofs.Lockstep
import Runbook.Proofs.Restored
import Runbook.Proofs.Interrupted
import Runbook.Proofs.Progress
import Runbook.Proofs.Cycle
import Runbook.Proofs.Failures
import Runbook.Proofs.Mirror
import Runbook.Proofs.Cancelled
import Runbook.Proofs.Remainder
import Runbook.Proofs.Modes
import Runbook.Proofs.Retries
import Runbook.Proofs.Deadline
import Runbook.Proofs.Finality
import Runbook.Proofs.Refusal
import Runbook.Proofs.Spelling
import Runbook.Proofs.Markers
import Runbook.Proofs.Placement
import Runbook.Proofs.Written
import Runbook.Proofs.Labels
import Runbook.Proofs.Frame
import Runbook.Proofs.Readback
import Runbook.Proofs.Sections
import Runbook.Proofs.Tidy
import Runbook.Proofs.Commute
import Runbook.Proofs.Handed
import Runbook.Proofs.Vocabulary
import Runbook.Proofs.Assignments
import Runbook.Proofs.Comparisons
import Runbook.Proofs.Negation
import Runbook.Proofs.Numerals
import Runbook.Proofs.Rounding
import Runbook.Proofs.Integers
import Runbook.Proofs.Representable
import Runbook.Proofs.Decimals
import Runbook.Proofs.Quotes
import Runbook.Proofs.Reordered
import Runbook.Proofs.Canonical
import Runbook.Proofs.Digests
import Runbook.Proofs.Store
import Runbook.Proofs.Repeats
import Runbook.Proofs.Pace
import Runbook.Proofs.Tally
import Runbook.Proofs.Unmentioned
import Runbook.Proofs.Overrun
import Runbook.Proofs.Chronology
import Runbook.Proofs.Invocation
