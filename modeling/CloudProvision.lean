import CloudProvision.Host
import CloudProvision.LogLevel
import CloudProvision.MemoryCloud
import CloudProvision.MemoryCloud.Fault
import CloudProvision.Remote.Encoding
import CloudProvision.Proofs.LoadBalancer.Addressing
import CloudProvision.Proofs.LoadBalancer.Deletion
import CloudProvision.Proofs.LoadBalancer.Delivery
import CloudProvision.Proofs.LoadBalancer.Idempotence
import CloudProvision.Proofs.LoadBalancer.Restatement
import CloudProvision.Proofs.Pairing
import CloudProvision.Proofs.LoadBalancer.Agreement
import CloudProvision.Proofs.LoadBalancer.Carried
import CloudProvision.Proofs.LoadBalancer.Undisturbed
import CloudProvision.Proofs.LoadBalancer.Creation
import CloudProvision.Proofs.Reordering
import CloudProvision.Proofs.LoadBalancer.Reordering
import CloudProvision.Proofs.Removal
import CloudProvision.Proofs.Provider
import CloudProvision.Proofs.Document
import CloudProvision.Proofs.LoadBalancer.Targets
import CloudProvision.Proofs.LoadBalancer.Storage
import CloudProvision.Proofs.Reapplication
import CloudProvision.Proofs.Context
import CloudProvision.Proofs.LoadBalancer.OwnFields
import CloudProvision.Proofs.LoadBalancer.Payloads
import CloudProvision.Proofs.Readback
import CloudProvision.Proofs.Proposal
import CloudProvision.Proofs.Identity.Search
import CloudProvision.Proofs.LoadBalancer.Matching
import CloudProvision.Proofs.LoadBalancer.BackendChanges
import CloudProvision.Proofs.LoadBalancer.Deferral
import CloudProvision.Proofs.LoadBalancer.RoundTrip
import CloudProvision.Proofs.LoadBalancer.Defaults
import CloudProvision.Proofs.Listing
import CloudProvision.Proofs.Polling.Pace
import CloudProvision.Proofs.Configuration
