import TopicRouting.Api
import TopicRouting.Bus.Shared
import TopicRouting.Main
import TopicRouting.Startup
import TopicRouting.Proofs.Fragment
import TopicRouting.Proofs.Matching
import TopicRouting.Proofs.Building
import TopicRouting.Proofs.RoundTrip
import TopicRouting.Proofs.Table
import TopicRouting.Proofs.Refinement
import TopicRouting.Proofs.Deliveries
import TopicRouting.Proofs.Assigning
import TopicRouting.Proofs.History
import TopicRouting.Proofs.Quoting
import TopicRouting.Proofs.Mapping
import TopicRouting.Proofs.Numerals
import TopicRouting.Proofs.ReadingBack
import TopicRouting.Proofs.Payloads
import TopicRouting.Proofs.Accepting
import TopicRouting.Proofs.Publishing
import TopicRouting.Proofs.Ledger
import TopicRouting.Proofs.Wait
import TopicRouting.Proofs.Waiting
import TopicRouting.Proofs.Moves
import TopicRouting.Proofs.Acknowledging
import TopicRouting.Proofs.Runs
import TopicRouting.Proofs.Registrations
import TopicRouting.Proofs.Serials
import TopicRouting.Proofs.Cells
import TopicRouting.Proofs.Walking
import TopicRouting.Proofs.Snapshot
import TopicRouting.Proofs.Keeping
import TopicRouting.Proofs.Staging
import TopicRouting.Proofs.Reentering
import TopicRouting.Proofs.Connection
import TopicRouting.Proofs.Descent
import TopicRouting.Proofs.Beginning
import TopicRouting.Proofs.Following
import TopicRouting.Proofs.Course
import TopicRouting.Proofs.Attempting
import TopicRouting.Proofs.Sequential
import TopicRouting.Proofs.Overlapping
import TopicRouting.Proofs.Topics
import TopicRouting.Proofs.Linearizing
import TopicRouting.Proofs.Resting
import TopicRouting.Proofs.Asking
import TopicRouting.Proofs.Labelled
import TopicRouting.Proofs.Completing
import TopicRouting.Proofs.Resubscribing
import TopicRouting.Proofs.Fallback
import TopicRouting.Proofs.Validating
import TopicRouting.Proofs.Starting
import TopicRouting.Proofs.Granting
import TopicRouting.Proofs.Subscribing
import TopicRouting.Proofs.Compiling
import TopicRouting.Proofs.Rendering
import TopicRouting.Proofs.Listing
import TopicRouting.Proofs.Counting
import TopicRouting.Proofs.Indenting
import TopicRouting.Proofs.Storing
import TopicRouting.Proofs.Overlaying
import TopicRouting.Proofs.Saving
import TopicRouting.Proofs.Spelling
import TopicRouting.Proofs.Expression
import TopicRouting.Proofs.Selecting
import TopicRouting.Proofs.Precedence
import TopicRouting.Proofs.Lasting
import TopicRouting.Proofs.Requesting
import TopicRouting.Proofs.Traceless
import TopicRouting.Proofs.Assignments
import TopicRouting.Proofs.Layers
import TopicRouting.Proofs.Roster
import TopicRouting.Proofs.Publications
import TopicRouting.Proofs.Tracing
import TopicRouting.Proofs.Reaching
import TopicRouting.Proofs.Closing
import TopicRouting.Proofs.Refusing
import TopicRouting.Proofs.Addressing
import TopicRouting.Proofs.Sharing
import TopicRouting.Proofs.Logging
