import ForeignArena.Proofs.AddressLayout
import ForeignArena.Proofs.Arenas.ClosedOnce
import ForeignArena.Proofs.Arenas.Confinement
import ForeignArena.Proofs.Arenas.Fillings
import ForeignArena.Proofs.Arenas.Report
import ForeignArena.Proofs.Audible
import ForeignArena.Proofs.Cleaners.Counters
import ForeignArena.Proofs.Cleaners.Order
import ForeignArena.Proofs.Cleaners.ThreadLife
import ForeignArena.Proofs.Cleaners.Tokens
import ForeignArena.Proofs.Flavours
import ForeignArena.Proofs.Journals
import ForeignArena.Proofs.Liveness
import ForeignArena.Proofs.OneDisposal
import ForeignArena.Proofs.Refusals
import ForeignArena.Proofs.Registries
import ForeignArena.Proofs.Runtimes.HeapKept
import ForeignArena.Proofs.Runtimes.Kinds
import ForeignArena.Proofs.Runtimes.Leaks
import ForeignArena.Proofs.Runtimes.Lending
import ForeignArena.Scenario.Run
import ForeignArena.Text.Layout
import ForeignArena.Text.Quoted
