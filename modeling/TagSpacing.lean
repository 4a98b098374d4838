import TagSpacing.Main
import TagSpacing.Recorder
import TagSpacing.Proofs.Refusal
import TagSpacing.Proofs.Batch
import TagSpacing.Proofs.Timeline
import TagSpacing.Proofs.Grouping
import TagSpacing.Proofs.Walk
import TagSpacing.Proofs.Space
import TagSpacing.Proofs.Isolation
import TagSpacing.Proofs.Cursors
import TagSpacing.Proofs.Grammar
import TagSpacing.Proofs.Markup
import TagSpacing.Proofs.Printer
import TagSpacing.Proofs.RoundTrip
import TagSpacing.Proofs.Scanner
import TagSpacing.Proofs.SelectionText
import TagSpacing.Proofs.Rerun
import TagSpacing.Proofs.Reach
import TagSpacing.Proofs.Coverage
import TagSpacing.Proofs.NormalForm
import TagSpacing.Proofs.Inverse
import TagSpacing.Proofs.Extract
import TagSpacing.Proofs.Partition
import TagSpacing.Proofs.Change
import TagSpacing.Proofs.Tabstops
import TagSpacing.Proofs.Occurrence
import TagSpacing.Proofs.Equality
import TagSpacing.Proofs.Replacement
import TagSpacing.Proofs.Faults
import TagSpacing.Proofs.SelectionGrammar
import TagSpacing.Proofs.LineStructure
import TagSpacing.Proofs.CommentOpening
import TagSpacing.Proofs.Rules
import TagSpacing.Proofs.Presence
