import HostCalls.Lock.Contexts
import HostCalls.Machine
import HostCalls.Memory.Ruled
import HostCalls.Memory.Traced
import HostCalls.Proofs.PageBytes
import HostCalls.Proofs.Registers
import HostCalls.Service.Stock
import HostCalls.Proofs.TickCases
import HostCalls.Proofs.TickStatus
import HostCalls.Proofs.Sending
import HostCalls.Proofs.PagedContent
import HostCalls.Proofs.PendingErrors
import HostCalls.Proofs.Confinement
import HostCalls.Proofs.Session
import HostCalls.Proofs.Delivery
import HostCalls.Proofs.SafeConfig
import HostCalls.Proofs.QueueTraffic
import HostCalls.Proofs.Overshoot
import HostCalls.Proofs.Deliverable
import HostCalls.Proofs.Placement
import HostCalls.Proofs.Access
import HostCalls.Proofs.ServiceMaps
import HostCalls.Proofs.Invocations
import HostCalls.Proofs.Polling
import HostCalls.Proofs.HeldMessages
import HostCalls.Proofs.Draining
import HostCalls.Proofs.Lockstep
import HostCalls.Proofs.Noninterference
import HostCalls.Proofs.MemoryHistory
import HostCalls.Proofs.FirstFault
import HostCalls.Proofs.RoundTrip
import HostCalls.Proofs.FailedTicks
import HostCalls.Proofs.PartialWrites
import HostCalls.Proofs.InterruptedResponses
import HostCalls.Proofs.NeededLength
import HostCalls.Proofs.Retrying
import HostCalls.Proofs.BufferReads
import HostCalls.Proofs.IssuedRequests
import HostCalls.Proofs.Registrations
import HostCalls.Proofs.RegisterWindows
import HostCalls.Proofs.SharedLock
