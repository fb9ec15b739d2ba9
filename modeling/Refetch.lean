import Refetch.Dest.Any
import Refetch.Digest.Verify
import Refetch.Download.Action
import Refetch.Engine.Http
import Refetch.Engine.Scripted
import Refetch.Progress.Console
import Refetch.Progress.Screen
import Refetch.Proofs.Dest.Agreement
import Refetch.Proofs.Dest.Commits
import Refetch.Proofs.Dest.Confinement
import Refetch.Proofs.Dest.Independence
import Refetch.Proofs.Dest.Metadata
import Refetch.Proofs.Dest.Naming
import Refetch.Proofs.Dest.Twins
import Refetch.Proofs.Digest.Chunking
import Refetch.Proofs.Download.Checking
import Refetch.Proofs.Download.Deciding
import Refetch.Proofs.Download.Displaying
import Refetch.Proofs.Download.Lifecycle
import Refetch.Proofs.Download.Listening
import Refetch.Proofs.Download.Preparing
import Refetch.Proofs.Download.Refreshing
import Refetch.Proofs.Download.Requesting
import Refetch.Proofs.Download.Returning
import Refetch.Proofs.Download.Validators
import Refetch.Proofs.Engine.Delivering
import Refetch.Proofs.Engine.Handing
import Refetch.Proofs.Engine.Transports
import Refetch.Proofs.Header.Caseless
import Refetch.Proofs.Header.Declared
import Refetch.Proofs.Http.Methods
import Refetch.Proofs.Http.Opening
import Refetch.Proofs.Progress.Passing
import Refetch.Proofs.Progress.Totals
import Refetch.Proofs.Storage.Changes
import Refetch.Proofs.Storage.Trees
import Refetch.Proofs.Text.RoundTrip
import Refetch.Proofs.Time.Dates
