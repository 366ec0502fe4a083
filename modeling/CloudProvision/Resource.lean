import CloudProvision.Request

/-!
# Resources

A `Resource` manages one kind of remote object for a host that keeps its state: it checks
configurations, plans changes, and makes them through the cloud API. Hosts speak in documents, and
`Resource.service` is a resource as they see it. There an operation reads its documents first, and
goes on only if all of them can be read.

An operation should return nothing exactly when it has recorded an error.
-/

namespace CloudProvision

/-- A kind of remote object with states `S`, on an API with states `σ`. -/
structure Resource (σ S : Type) where
  codec : Codec S
  /-- Record what is wrong with a configuration. -/
  validate : (config : S) → Request σ Unit
  /-- The current state, none if the object does not exist any more. -/
  read : (state : S) → Request σ (Option S)
  /-- The state that a new object is going to have. -/
  planCreate : (proposed : S) → Request σ S
  /-- The state that an object is going to have, and the attributes whose change asks for a new
  object in its place. -/
  planUpdate : (prior proposed : S) → Request σ (S × List AttributePath)
  create : (planned : S) → Request σ S
  update : (prior planned : S) → Request σ S
  destroy : (prior : S) → Request σ Unit
  /-- The state of an existing object. Not every resource supports this. -/
  adopt : (id : String) → Request σ S := fun _ => do
    Request.error (.short "Import is not supported" .root)
    failure

/-- A resource as a host sees it. -/
structure ResourceService (σ : Type) where
  validate : (config : Document) → Request σ Unit
  read : (state : Document) → Request σ Document
  planCreate : (proposed config : Document) → Request σ Document
  planUpdate : (prior proposed config : Document) → Request σ (Document × List AttributePath)
  create : (planned config : Document) → Request σ Document
  update : (prior planned config : Document) → Request σ Document
  destroy : (prior : Document) → Request σ Unit
  adopt : (id : String) → Request σ Document

/-- The service of a resource. -/
def Resource.service {σ S : Type} (r : Resource σ S) : ResourceService σ where
  validate config := do
    r.validate (← .decode r.codec config)
  read state := do
    match ← r.read (← .decode r.codec state) with
    | some state => return .encode r.codec state
    | none => return .null
  planCreate proposed config := do
    let (proposed, _) ← Request.both (.decode r.codec proposed) (.decode r.codec config)
    return .encode r.codec (← r.planCreate proposed)
  planUpdate prior proposed config := do
    let (prior, proposed, _) ← Request.both (.decode r.codec prior)
      (.both (.decode r.codec proposed) (.decode r.codec config))
    let (planned, replace) ← r.planUpdate prior proposed
    return (.encode r.codec planned, replace)
  create planned config := do
    let (planned, _) ← Request.both (.decode r.codec planned) (.decode r.codec config)
    return .encode r.codec (← r.create planned)
  update prior planned config := do
    let (prior, planned, _) ← Request.both (.decode r.codec prior)
      (.both (.decode r.codec planned) (.decode r.codec config))
    return .encode r.codec (← r.update prior planned)
  destroy prior := do
    r.destroy (← .decode r.codec prior)
  adopt id := do
    return .encode r.codec (← r.adopt id)

/-- A kind of listing with states `S`: what is asked for and what was found. -/
structure DataSource (σ S : Type) where
  codec : Codec S
  /-- Record what is wrong with a configuration. -/
  validate : (config : S) → Request σ Unit
  read : (config : S) → Request σ S

/-- A data source as a host sees it. -/
structure DataSourceService (σ : Type) where
  validate : (config : Document) → Request σ Unit
  read : (config : Document) → Request σ Document

/-- The service of a data source. -/
def DataSource.service {σ S : Type} (d : DataSource σ S) : DataSourceService σ where
  validate config := do
    d.validate (← .decode d.codec config)
  read config := do
    return .encode d.codec (← d.read (← .decode d.codec config))

end CloudProvision
