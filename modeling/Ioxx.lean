import Ioxx.Runs
import Ioxx.Masks
import Ioxx.Core
import Ioxx.Afd
import Ioxx.AfdInvariant
import Ioxx.AfdEmission
import Ioxx.Selector
import Ioxx.Epoll
import Ioxx.Registry
import Ioxx.Descriptors
import Ioxx.Batches
import Ioxx.Kqueue
import Ioxx.Net
import Ioxx.Lengths
import Ioxx.AfdSelector
import Ioxx.Rounds
import Ioxx.NamedPipe
import Ioxx.PipeOperations
import Ioxx.PipeReads
import Ioxx.PipeWrites
import Ioxx.PipeSessions
import Ioxx.PipeViews
import Ioxx.PipeMoves
import Ioxx.PipeErrors
import Ioxx.SelfPipe
import Ioxx.Signals
import Ioxx.SignalSets
import Ioxx.PendingSignals
import Ioxx.Iocp
import Ioxx.Polling
import Ioxx.EdgeTriggered
import Ioxx.Waker
import Ioxx.Timeouts
import Ioxx.Bytes
import Ioxx.Draining
import Ioxx.Addresses
import Ioxx.Programs
import Ioxx.UnixPaths
import Ioxx.Posix
import Ioxx.UnixFactories
import Ioxx.NetFactories
import Ioxx.Ownership
import Ioxx.Owners
import Ioxx.WakerStates
import Ioxx.PipeWaker
import Ioxx.Reports
import Ioxx.PortWaker
import Ioxx.SharedPointers
import Ioxx.Lifetimes
import Ioxx.Options
import Ioxx.Mailboxes
import Ioxx.UnixDatagrams
import Ioxx.SourceMoves
import Ioxx.Attending
import Ioxx.AfdProgress
