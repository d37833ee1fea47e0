import LogLens.Main
import LogLens.Proofs.Delivery
import LogLens.Proofs.Evaluation
import LogLens.Proofs.FreeFilters
import LogLens.Proofs.Incremental
import LogLens.Proofs.Amending
import LogLens.Proofs.Abandoning
import LogLens.Proofs.Overlapping
import LogLens.Proofs.Closing
import LogLens.Proofs.Separation
import LogLens.Proofs.CommandText
import LogLens.Proofs.Grammar
import LogLens.Proofs.Scripts
import LogLens.Proofs.Tailing
import LogLens.Proofs.Interleaving
import LogLens.Proofs.Replaying
import LogLens.Proofs.Commanding
import LogLens.Proofs.Exporting
import LogLens.Proofs.Showing
import LogLens.Proofs.Joining
import LogLens.Proofs.Restoring
import LogLens.Proofs.Enrolling
import LogLens.Proofs.Roster
import LogLens.Proofs.Rereading
import LogLens.Proofs.Restarting
import LogLens.Proofs.Marking
import LogLens.Proofs.InPlace
import LogLens.Proofs.Programs
import LogLens.Proofs.Refusing
import LogLens.Proofs.Operating
import LogLens.Proofs.Resuming
import LogLens.Proofs.Repeating
import LogLens.Proofs.Recombining
import LogLens.Proofs.Invalidating
import LogLens.Proofs.Correcting
import LogLens.Proofs.Navigating
import LogLens.Proofs.SteppingBack
import LogLens.Proofs.Concluding
import LogLens.Proofs.History
import LogLens.Proofs.Uniting
import LogLens.Proofs.Bookmarking
import LogLens.Proofs.Seeking
import LogLens.Proofs.Requesting
import LogLens.Proofs.Searching
import LogLens.Proofs.Naming
import LogLens.Proofs.Reopening
import LogLens.Proofs.Rendering
