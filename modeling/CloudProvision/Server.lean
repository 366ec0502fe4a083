import CloudProvision.Provider

/-!
# The server of a provider

A server loads what a provider offers, and finds it by the full name: that of the provider, an
underscore and the short name.
-/

namespace CloudProvision

/-- What a host finds under full names, and the diagnostics of loading it. -/
structure Server (σ : Type) where
  resources : StringMap (ResourceService σ)
  dataSources : StringMap (DataSourceService σ)
  diagnostics : Diagnostics

namespace Server

variable {σ α : Type}

/-- The full name of what a provider offers. -/
def fullName (provider name : String) : String :=
  provider ++ "_" ++ name

/-- Items under their full names. -/
def named (provider : String) (items : List (String × α)) : StringMap α :=
  .ofList (items.map fun (name, item) => (fullName provider name, item))

/-- The server of an offer. A listing that failed without an error is an internal error. -/
def load (provider : String) (offer : Offer σ) : Server σ where
  resources := named provider (offer.resources.getD [])
  dataSources := named provider (offer.dataSources.getD [])
  diagnostics :=
    if offer.resources.isNone || offer.dataSources.isNone then offer.diagnostics.internalError
    else offer.diagnostics

/-- The resource with this full name. -/
def resource (s : Server σ) (name : String) : Request σ (ResourceService σ) :=
  match s.resources.get? name with
  | some found => pure found
  | none => do
    Request.error (.short ("Could not find resource `" ++ name ++ "` in provider") .root)
    failure

/-- The data source with this full name. -/
def dataSource (s : Server σ) (name : String) : Request σ (DataSourceService σ) :=
  match s.dataSources.get? name with
  | some found => pure found
  | none => do
    Request.error (.short ("Could not find data source `" ++ name ++ "` in provider") .root)
    failure

end Server

end CloudProvision
