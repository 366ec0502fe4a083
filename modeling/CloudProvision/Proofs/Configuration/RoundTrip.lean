import CloudProvision.Proofs.Document
import CloudProvision.Settings

/-!
# What a document of the configuration keeps

The block of timeouts is written as a list of at most one block, which says nothing of a block that
is undecided: it is written as if there were none. Everything else is read back from the document
that a configuration is written as, whatever document it was read from.

## Main definitions

* `Configuration.settled`: a configuration with no block in place of an undecided one.
* `Codec.Integral`: a codec that writes no floating-point numbers.

## Main results

* `Configuration.Kept.faithful_settled`: a configuration that was read is read back once it is
  settled.
* `Configuration.document_reads_back_iff`: it is read back as it is exactly if its block is not
  undecided.
-/

namespace CloudProvision

open Codec

/-! ### Documents without floating-point numbers -/

namespace Codec

variable {α : Type} {codec : Codec α}

/-- The codec writes no floating-point numbers. -/
def Integral (codec : Codec α) : Prop :=
  ∀ x, (codec.encode x).floats = []

theorem integral_integer : integer.Integral :=
  fun _ => rfl

theorem Integral.attr (h : codec.Integral) : (attr codec).Integral
  | .known x => h x
  | .null => rfl
  | .unknown => rfl

theorem Integral.block (h : codec.Integral) : (block codec).Integral
  | .known x => by
      have inner := h x
      simp only [Json.floats] at inner
      simp only [Json.floats, Codec.block, Json.scalars, Json.itemScalars, List.append_nil, inner]
  | .null => rfl
  | .unknown => rfl

/-- A record writes what its parts write. -/
theorem integral_record (parts : List (Part α)) {name : String} {blank : α}
    (h : ∀ p ∈ parts, p.codec.Integral) :
    (record name (parts.map Part.field) blank).Integral := by
  refine fun x => List.filterMap_eq_nil_iff.2 fun scalar mem => ?_
  obtain ⟨member, written, inside⟩ := Json.mem_memberScalars.1 mem
  simp only [List.mem_map] at written
  obtain ⟨_, ⟨p, part, rfl⟩, rfl⟩ := written
  exact List.filterMap_eq_nil_iff.1 (h p part (p.get x)) scalar inside

end Codec

/-! ### Configurations -/

theorem TimeoutsBlock.sound_codec : TimeoutsBlock.codec.Sound :=
  sound_record [.attr integer, .attr integer, .attr integer, .attr integer]
    (by constructor <;> simp)

theorem TimeoutsBlock.integral_codec : TimeoutsBlock.codec.Integral :=
  integral_record [.attr integer, .attr integer, .attr integer, .attr integer]
    (by simp [integral_integer.attr])

namespace Configuration

/-- The parts of the block of the provider. -/
def parts : List (Part Configuration) := [
  ⟨_, "poll_interval", .attr .integer, pollInterval, fun v x => { x with pollInterval := v }⟩,
  ⟨_, "page_size", .attr .integer, pageSize, fun v x => { x with pageSize := v }⟩,
  ⟨_, "timeouts", .block TimeoutsBlock.codec, timeouts, fun v x => { x with timeouts := v }⟩]

/-- The configuration with no block of timeouts where it is undecided. -/
def settled (c : Configuration) : Configuration :=
  { c with timeouts := .ofOption c.timeouts.toOption }

/-- An undecided block is written as no block. -/
theorem encode_settled (c : Configuration) : codec.encode c.settled = codec.encode c := by
  rcases c with ⟨interval, page, _ | _ | _⟩ <;> rfl

/-- Exactly an undecided block is lost. -/
theorem settled_eq_iff {c : Configuration} : c.settled = c ↔ c.timeouts.isUnknown = false := by
  rcases c with ⟨interval, page, _ | _ | _⟩ <;>
    simp [settled, Attr.ofOption, Attr.toOption, Attr.isUnknown]

/-- The fields of a configuration are read back once it is settled. -/
structure Kept (c : Configuration) : Prop where
  pollInterval : (attr integer).Faithful c.pollInterval
  pageSize : (attr integer).Faithful c.pageSize
  timeouts : (block TimeoutsBlock.codec).Faithful c.settled.timeouts

/-- Whatever a field is read from, the fields are read back. -/
theorem Kept.decode {c c' : Configuration} (h : c.Kept) {f : Field Configuration} (mem : f ∈ fields)
    {json : Json} (read : f.decode json c = .ok c') : c'.Kept := by
  have number {x : Attr Int} (read : (attr integer).decode json = .ok x) :
      (attr integer).Faithful x := (sound_attr sound_integer).faithful json x read
  simp only [fields, List.mem_cons, List.not_mem_nil, or_false] at mem
  rcases mem with rfl | rfl | rfl
  · obtain ⟨v, value, rfl⟩ := map_eq_ok read
    exact { h with pollInterval := number value }
  · obtain ⟨v, value, rfl⟩ := map_eq_ok read
    exact { h with pageSize := number value }
  · obtain ⟨v, value, rfl⟩ := map_eq_ok read
    exact { h with timeouts := TimeoutsBlock.sound_codec.faithful_block value }

/-- The fields of a configuration that was read are read back. -/
theorem kept_of_decode {json : Json} {c : Configuration} (read : codec.decode json = .ok c) :
    c.Kept :=
  record_keeps (fun _ mem _ _ _ step kept => kept.decode mem step)
    ⟨faithful_null integer, faithful_null integer, faithful_block_null _⟩ read

/-- A configuration that was read is read back once it is settled. -/
theorem Kept.faithful_settled {c : Configuration} (h : c.Kept) : codec.Faithful c.settled :=
  faithful_record parts (by decide) rfl
    (by simpa [parts] using ⟨h.pollInterval, h.pageSize, h.timeouts⟩)

/-- A configuration is read back from the document that it is written as, without an undecided
block of timeouts. So it is read back as it is exactly if its block is not undecided. -/
theorem document_reads_back_iff (d : Document) (c : Configuration)
    (given : d.decode codec = .ok c) :
    (Document.encode codec c).decode codec = .ok c.settled ∧
      ((Document.encode codec c).decode codec = .ok c ↔ c.timeouts.isUnknown = false) := by
  obtain ⟨json, -, read⟩ := decode_of_document given
  have integral : codec.Integral := integral_record parts
    (by simpa [parts] using ⟨integral_integer.attr, TimeoutsBlock.integral_codec.block⟩)
  have back : (Document.encode codec c).decode codec = .ok c.settled := by
    have again := (kept_of_decode read).faithful_settled.decode_document
      (by simp [integral c.settled])
    rwa [Document.encode, encode_settled] at again
  refine ⟨back, ?_⟩
  rw [back, Except.ok.injEq, settled_eq_iff]

/-- A configuration whose block of timeouts has a known, an absent and an undecided value. -/
def readSample : Configuration :=
  ⟨.known 2, .unknown, .known ⟨.known 5, .null, .null, .unknown⟩⟩

/-- It is read from a document, and from the document that it is written as. -/
theorem document_reads_back_iff_sample :
    (Document.ofText ("\x7b\"page_size\": \"74D93920-ED26-11E3-AC10-0800200C9A66\", " ++
      "\"timeouts\": [[5, null, null, \"74D93920-ED26-11E3-AC10-0800200C9A66\"]], " ++
      "\"poll_interval\": 2\x7d")).decode codec = .ok readSample ∧
    (Document.encode codec readSample).decode codec = .ok readSample :=
  have given := eq_ok_of_toOption (by decide +kernel)
  ⟨given, ((document_reads_back_iff _ readSample given).2).2 rfl⟩

/-- A block of timeouts that is undecided is read back as none. -/
theorem undecided_timeouts_lost :
    let c : Configuration := ⟨.null, .null, .unknown⟩
    (Document.ofText "\x7b\"timeouts\": \"74D93920-ED26-11E3-AC10-0800200C9A66\"\x7d").decode
        codec = .ok c ∧
      (Document.encode codec c).decode codec = .ok ⟨.null, .null, .null⟩ ∧
      (Document.encode codec c).decode codec ≠ .ok c := by
  have back : (Document.encode codec ⟨.null, .null, .unknown⟩).decode codec =
      .ok ⟨.null, .null, .null⟩ := eq_ok_of_toOption (by decide +kernel)
  exact ⟨eq_ok_of_toOption (by decide +kernel), back, by rw [back]; simp⟩

end Configuration

end CloudProvision
