import CloudProvision.Instance
import CloudProvision.LoadBalancer.State
import CloudProvision.Proofs.Codec.Record
import CloudProvision.Registry
import CloudProvision.Snapshot
import CloudProvision.Volume

/-!
# Round trips of documents

Whatever value a document of a host decodes to, the document of this value decodes to it again: no
state is lost between two requests, and null, undecided and known values are kept apart at every
depth.

## Main definitions

* `Codec.RoundTrips`: the property for all documents.
* `Codec.ReadsTwice`: the property for one document.
* `Codec.Regular`: attributes, lists and maps of scalars.

## Main results

* `round_trips`: the codecs of all states and of all attributes have the property.
-/

namespace CloudProvision

open Codec

namespace Codec

variable {α : Type} {codec : Codec α}

/-- A value that a document decodes to is read back from the JSON value that it is written as. If
its floating-point numbers are read back from their text, it is also read back from the document
that it is written as, and the value that is read back is written as the same document. -/
def RoundTrips (codec : Codec α) : Prop :=
  ∀ (d : Document) (x : α), d.decode codec = .ok x →
    codec.decode (codec.encode x) = .ok x ∧
    ((∀ f ∈ (codec.encode x).floats, f.ReadsBack) →
      (Document.encode codec x).decode codec = .ok x ∧
      (Document.encode codec <$> (Document.encode codec x).decode codec) =
        .ok (Document.encode codec x))

/-- A document is read as a value, and so is the document that this is written as. -/
structure ReadsTwice (codec : Codec α) (d : Document) (x : α) : Prop where
  first : d.decode codec = .ok x
  again : (Document.encode codec x).decode codec = .ok x

/-- What a document decodes to is decoded from its JSON value. -/
theorem decode_of_document {d : Document} {x : α} (h : d.decode codec = .ok x) :
    ∃ json, d.tree? = some json ∧ codec.decode json = .ok x := by
  rw [Document.decode, read] at h
  split at h
  · cases h
  · next json found =>
    split at h
    · next decoded => exact ⟨json, found, Except.ok.inj h ▸ decoded⟩
    · cases h

/-- A faithful value is read back from the document that it is written as. -/
theorem Faithful.decode_document {x : α} (h : codec.Faithful x)
    (floats : ∀ f ∈ (codec.encode x).floats, f.ReadsBack) :
    (Document.encode codec x).decode codec = .ok x := by
  have tree : Json.read? (Document.encode codec x).bytes = some (codec.encode x) :=
    Json.read?_render h.writable floats
  have filled : (Document.encode codec x).bytes.isEmpty = false := by
    refine Bool.eq_false_iff.2 fun empty => ?_
    rw [List.isEmpty_iff.1 empty] at tree
    simp [Json.read?, Text.Utf8.decode, Json.Token.scan, Json.ofTokens?,
      Json.ReaderState.start] at tree
  simp only [Document.decode, Document.content, filled, Bool.false_eq_true, if_false, read, tree,
    h.decode_encode]

/-- The document of a value that is read back is read twice. -/
theorem RoundTrips.readsTwice (h : codec.RoundTrips) {d : Document} {x : α}
    (first : d.decode codec = .ok x) (floats : ∀ f ∈ (codec.encode x).floats, f.ReadsBack) :
    codec.ReadsTwice d x :=
  ⟨first, ((h d x first).2 floats).1⟩

/-- Sound codecs round-trip. -/
theorem Sound.roundTrips (h : codec.Sound) : codec.RoundTrips := by
  intro d x decoded
  obtain ⟨json, -, inner⟩ := decode_of_document decoded
  have faithful := h.faithful json x inner
  refine ⟨faithful.decode_encode, fun floats => ?_⟩
  have again := faithful.decode_document floats
  exact ⟨again, by rw [again]; rfl⟩

/-- Attributes, lists and maps of scalars. -/
inductive Regular : {α : Type} → Codec α → Prop
  | text : Regular text
  | integer : Regular integer
  | float : Regular float
  | boolean : Regular boolean
  | attr {α : Type} {codec : Codec α} : Regular codec → Regular (attr codec)
  | list {α : Type} {codec : Codec α} : Regular codec → Regular (list codec)
  | map {α : Type} {codec : Codec α} : Regular codec → Regular (map codec)

theorem Regular.sound (h : codec.Regular) : codec.Sound := by
  induction h with
  | text => exact sound_text
  | integer => exact sound_integer
  | float => exact sound_float
  | boolean => exact sound_boolean
  | attr _ ih => exact sound_attr ih
  | list _ ih => exact sound_list ih
  | map _ ih => exact sound_map ih

end Codec

/-! ### States

Only the type of each field has to be said here: its name and how it is set are those of the
codec. That the fields are independent are equations between records, which `simp` evaluates. -/

theorem Volume.State.sound_codec : Volume.State.codec.Sound :=
  sound_record [.attr text, .attr text, .attr integer, .attr text, .attr text, .attr text,
    .attr text]
    (by constructor <;> simp)

@[simp]
theorem Volume.Item.sound_codec : Volume.Item.codec.Sound :=
  sound_record [.attr text, .attr text, .attr integer, .attr text, .attr text, .attr text]
    (by constructor <;> simp)

theorem Volume.Listing.sound_codec : Volume.Listing.codec.Sound :=
  sound_record [.attr text, .attr (list Volume.Item.codec)]
    (by constructor <;> simp)

theorem Snapshot.State.sound_codec : Snapshot.State.codec.Sound :=
  sound_record [.attr text, .attr text, .attr text, .attr integer, .attr text]
    (by constructor <;> simp)

theorem Instance.State.sound_codec : Instance.State.codec.Sound :=
  sound_record [.attr text, .attr text, .attr text, .attr text, .attr text, .attr text,
    .attr (map (attr text)), .attr text]
    (by constructor <;> simp [sound_map (sound_attr sound_text)])

theorem Registry.State.sound_codec : Registry.State.codec.Sound :=
  sound_record [.attr text, .attr text, .attr boolean, .attr text]
    (by constructor <;> simp)

namespace LoadBalancer

@[simp]
theorem Target.sound_codec : Target.codec.Sound :=
  sound_record [.attr text, .attr text, .attr integer]
    (by constructor <;> simp)

@[simp]
theorem Listener.sound_codec : Listener.codec.Sound :=
  sound_record [.attr text, .attr text, .attr integer, .attr text, .attr text, .attr text]
    (by constructor <;> simp)

@[simp]
theorem Acl.sound_codec : Acl.codec.Sound :=
  sound_record [.attr text, .attr text, .attr text, .attr text, .attr integer, .attr text]
    (by constructor <;> simp)

@[simp]
theorem HealthCheck.sound_codec : HealthCheck.codec.Sound :=
  sound_record [.attr text, .attr text, .attr text, .attr integer, .attr text, .attr integer,
    .attr integer, .attr integer, .attr integer]
    (by constructor <;> simp)

@[simp]
theorem Backend.sound_codec : Backend.codec.Sound :=
  sound_record [.attr text, .attr text, .attr text, .attr float, .attr boolean, .attr text,
    .attr (list Target.codec)]
    (by constructor <;> simp)

theorem State.sound_codec : State.codec.Sound :=
  sound_record [.attr text, .attr text, .attr text, .attr text, .attr text,
    .attr (list Listener.codec), .attr (list Acl.codec), .attr (list HealthCheck.codec),
    .attr (list Backend.codec)]
    (by constructor <;> simp)

end LoadBalancer

/-- The codecs of all states round-trip, and so do those of attributes, lists and maps of
scalars. -/
theorem round_trips :
    (∀ {α : Type} (codec : Codec α), codec.Regular → codec.RoundTrips) ∧
    Volume.State.codec.RoundTrips ∧ Snapshot.State.codec.RoundTrips ∧
    Instance.State.codec.RoundTrips ∧ Registry.State.codec.RoundTrips ∧
    LoadBalancer.State.codec.RoundTrips ∧ Volume.Listing.codec.RoundTrips :=
  ⟨fun _ regular => regular.sound.roundTrips, Volume.State.sound_codec.roundTrips,
    Snapshot.State.sound_codec.roundTrips, Instance.State.sound_codec.roundTrips,
    Registry.State.sound_codec.roundTrips, LoadBalancer.State.sound_codec.roundTrips,
    Volume.Listing.sound_codec.roundTrips⟩

/-- One half. -/
def Binary64.half : Binary64 :=
  ⟨false, 4503599627370496, 1021, by decide, by decide, .inr (by decide)⟩

/-- What stands for an undecided value in the text of a document. -/
def sentinel : String :=
  "\"" ++ undecided ++ "\""

/-- A load balancer with undecided listeners and a backend whose targets are given as arrays, with
fields out of order and a member that is no field. -/
def LoadBalancer.givenSample : Document :=
  .ofText ("\x7b\"later\": [1], \"listeners\": " ++ sentinel ++ ", " ++
    "\"name\": \"front\", \"backends\": [\x7b\"panic_threshold\": 0.5, " ++
    "\"targets\": [[null, \"10.0.0.1\", 80]]\x7d]\x7d")

/-- The load balancer of this document. -/
def LoadBalancer.readSample : State :=
  ⟨.null, .known "front", .null, .null, .null, .unknown, .null, .null,
    .known [⟨.null, .null, .null, .known .half, .null, .null,
      .known [⟨.null, .known "10.0.0.1", .known 80⟩]⟩]⟩

/-- A volume that is given as an array, without its last fields. -/
def Volume.givenSample : Document :=
  .ofText ("[" ++ sentinel ++ ", \"data\", 8, null]")

/-- A snapshot with fields out of order. -/
def Snapshot.givenSample : Document :=
  .ofText ("\x7b\"size_gib\": " ++ sentinel ++ ", \"volume_id\": \"vol-1\", \"id\": null\x7d")

/-- An instance with an undecided tag, and one that is null. -/
def Instance.givenSample : Document :=
  .ofText ("\x7b\"name\": \"web\", \"tags\": \x7b\"team\": " ++ sentinel ++
    ", \"env\": null, \"app\": \"shop\"\x7d\x7d")

/-- A registry with a member that is no field. -/
def Registry.givenSample : Document :=
  .ofText "\x7b\"owner\": \x7b\"id\": 1\x7d, \"public\": true, \"name\": \"images\"\x7d"

/-- A listing of volumes, one of which is given as an array. -/
def Volume.givenListing : Document :=
  .ofText ("\x7b\"volumes\": [[\"vol-1\", \"web\"], \x7b\"size_gib\": -1\x7d], \"name\": " ++
    sentinel ++ "\x7d")

/-- Documents of each kind are read, written and read back, and so is a list of numbers with an
undecided element and a missing one. -/
theorem round_trips_sample :
    Volume.State.codec.ReadsTwice Volume.givenSample
      ⟨.unknown, .known "data", .known 8, .null, .null, .null, .null⟩ ∧
    Snapshot.State.codec.ReadsTwice Snapshot.givenSample
      ⟨.null, .known "vol-1", .null, .unknown, .null⟩ ∧
    Instance.State.codec.ReadsTwice Instance.givenSample
      ⟨.null, .known "web", .null, .null, .null, .null, .known (.ofList
        [("app", .known "shop"), ("env", .null), ("team", .unknown)]), .null⟩ ∧
    Registry.State.codec.ReadsTwice Registry.givenSample
      ⟨.null, .known "images", .known true, .null⟩ ∧
    LoadBalancer.State.codec.ReadsTwice LoadBalancer.givenSample LoadBalancer.readSample ∧
    Volume.Listing.codec.ReadsTwice Volume.givenListing
      ⟨.unknown, .known [⟨.known "vol-1", .known "web", .null, .null, .null, .null⟩,
        ⟨.null, .null, .known (-1), .null, .null, .null⟩]⟩ ∧
    (attr (list (attr float))).ReadsTwice (.ofText ("[0.5, " ++ sentinel ++ ", null]"))
      (.known [.known .half, .unknown, .null]) := by
  obtain ⟨attributes, volumes, snapshots, instances, registries, loadBalancers, listings⟩ :=
    round_trips
  exact ⟨volumes.readsTwice (eq_ok_of_toOption (by decide +kernel)) (by decide +kernel),
    snapshots.readsTwice (eq_ok_of_toOption (by decide +kernel)) (by decide +kernel),
    instances.readsTwice (eq_ok_of_toOption (by decide +kernel)) (by decide +kernel),
    registries.readsTwice (eq_ok_of_toOption (by decide +kernel)) (by decide +kernel),
    loadBalancers.readsTwice (eq_ok_of_toOption (by decide +kernel)) (by decide +kernel),
    listings.readsTwice (eq_ok_of_toOption (by decide +kernel)) (by decide +kernel),
    (attributes _ (.attr (.list (.attr .float)))).readsTwice
      (eq_ok_of_toOption (by decide +kernel)) (by decide +kernel)⟩

end CloudProvision
