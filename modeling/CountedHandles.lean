import CountedHandles.Program
import CountedHandles.Proofs.Acts
import CountedHandles.Proofs.Consistency
import CountedHandles.Proofs.Course
import CountedHandles.Proofs.Destruction
import CountedHandles.Proofs.Holding
import CountedHandles.Proofs.Counting
import CountedHandles.Proofs.Lifetimes
import CountedHandles.Proofs.Registration
import CountedHandles.Proofs.Lockstep
import CountedHandles.Proofs.Occupancy
import CountedHandles.Proofs.Performing
import CountedHandles.Proofs.Renewal
import CountedHandles.Slot.Bank
import CountedHandles.Proofs.Protocol
import CountedHandles.Proofs.Reports
import CountedHandles.Proofs.Panics
import CountedHandles.Proofs.Histories
import CountedHandles.Proofs.Teardown
import CountedHandles.Proofs.Coverage
import CountedHandles.Proofs.Dangling
import CountedHandles.Proofs.Encodings
import CountedHandles.Proofs.Standings
import CountedHandles.Proofs.Sources
import CountedHandles.Proofs.Twins
import CountedHandles.Proofs.Locality
import CountedHandles.Proofs.Renumbering
import CountedHandles.Proofs.Independence
import CountedHandles.Proofs.Exposure
import CountedHandles.Proofs.Chains
import CountedHandles.Proofs.Storage
import CountedHandles.Proofs.Banks
import CountedHandles.Proofs.Equality
import CountedHandles.Proofs.Frames
import CountedHandles.Proofs.Vacancies
