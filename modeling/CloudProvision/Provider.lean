import CloudProvision.Context
import CloudProvision.Instance
import CloudProvision.LoadBalancer.Resource
import CloudProvision.Registry
import CloudProvision.Snapshot
import CloudProvision.Volume

/-!
# The provider

The provider offers its resources and data sources by name, and takes a configuration for all of
them. Only the first configuration counts: a later one is checked, and a warning says that it
changes nothing.
-/

namespace CloudProvision

/-- What a provider offers. Resources or data sources are absent if they could not be listed, and
the diagnostics are those of the listing. -/
structure Offer (σ : Type) where
  resources : Option (List (String × ResourceService σ))
  dataSources : Option (List (String × DataSourceService σ))
  diagnostics : Diagnostics

namespace Provider

variable {σ : Type}

/-- What the provider offers. -/
def offer : Offer σ where
  resources := some [
    ("volume", Volume.resource.service),
    ("snapshot", Snapshot.resource.service),
    ("instance", Instance.resource.service),
    ("registry", Registry.resource.service),
    ("load_balancer", LoadBalancer.resource.service)]
  dataSources := some [("volumes", Volume.listing.service)]
  diagnostics := .none

/-- Read a configuration, and record its errors. -/
def checked (config : Document) : Request σ Configuration := do
  let config ← .decode Configuration.codec config
  Request.errors config.validate
  Request.unlessErrors
  return config

/-- Check a configuration. -/
def validate (config : Document) : Request σ Unit := do
  let _ ← checked config

/-- The context after a configuration. -/
def configure (context : Context) (config : Document) : Request σ Context := do
  let config ← checked config
  let (isFirst, context) := context.configure config.settings
  if !isFirst then
    Request.warn (.short "Provider is already configured" .root)
  return context

end Provider

end CloudProvision
