import CloudProvision.Proofs.Request
import CloudProvision.Provider

/-!
# Requests to the provider

Nothing keeps an operation from giving up in silence, or from going on after an error. So each
operation of each resource is shown to do neither, step by step: it gives up only right after an
error that it records, and it looks for errors after those that do not make it give up. A
configuration of the provider is read and checked before anything is done with it.

## Main results

* `Volume.honest`, `Snapshot.honest`, `Instance.honest`, `Registry.honest`, `LoadBalancer.honest`
  and `Volume.listing_honest`: no operation gives up without an error, or goes on after one.
* `Provider.checked_accountable`: a configuration is read first.
* `Provider.requests_accountable`: every request returns nothing exactly if it has recorded an
  error, with one error for each document that cannot be read and no call after one.
-/

namespace CloudProvision

open Request

variable {σ : Type}

/-! ### What operations have in common -/

/-- Where an object has no identifier there is nothing to read. -/
theorem honest_lookUp {S : Type} {id : Option String} {read : String → Request σ (Option S)}
    (h : ∀ id, (read id).Honest) :
    (match id with
      | none => return none
      | some id => read id : Request σ (Option S)).Honest := by
  cases id with
  | none => exact honest_pure _
  | some id => exact h id

/-- An object is deleted, and waited for if there was one. -/
theorem honest_remove {c : Remote.Call} {refused : String} {rest : Option c.Answer → Request σ Unit}
    (missing : (rest none).Honest) (accepted : ∀ x, (rest (some x)).Honest) :
    (attempt c refused >>= rest).Honest :=
  (honest_attempt c refused).bind fun found => by
    cases found with
    | none => exact missing
    | some x => exact accepted x

/-- One of two things is done. -/
theorem honest_ite {α : Type} {x y : Request σ α} {p : Prop} [Decidable p] (hx : x.Honest)
    (hy : y.Honest) : (if p then x else y).Honest := by
  split
  · exact hx
  · exact hy

/-- What an object is, once it is fetched. -/
theorem honest_readBack {ε α S : Type} [ToString ε] (step : Operation σ (Except ε α))
    (summary : String) (readBack : α → S) :
    (do return readBack (← orReport step summary) : Request σ S).Honest :=
  (honest_orReport step summary).bind fun _ => honest_pure _

/-- What an object is, if there is one. -/
theorem honest_readBack? {S : Type} (c : Remote.Call) (summary : String) (readBack : c.Answer → S) :
    (do return (← attempt c summary).map readBack : Request σ (Option S)).Honest :=
  (honest_attempt c summary).bind fun _ => honest_pure _

/-! ### Resources -/

namespace Volume

theorem honest_checkSize (prior proposed : State) :
    (prior.checkSize proposed : Request σ Unit).Honest := by
  rw [State.checkSize]
  split
  · exact honest_ite (honest_failure _) (honest_pure _)
  · exact honest_pure _

theorem honest : (resource (σ := σ)).Honest where
  validate _ := honest_checks _
  read _ := honest_lookUp fun _ => honest_readBack? _ _ _
  planCreate _ := honest_pure _
  planUpdate prior proposed := (honest_checkSize prior proposed).bind fun _ => honest_pure _
  create _ := (honest_orReport _ _).bind fun _ => honest_readBack _ _ _
  update _ _ := honest_ite (honest_pure _)
    ((honest_orReport _ _).bind fun _ => honest_readBack _ _ _)
  destroy _ := honest_remove (honest_pure _) fun _ => honest_awaitDeletion _ _ _ _
  adopt _ := honest_readBack _ _ _

theorem listing_honest : (listing (σ := σ)).Honest where
  validate _ := honest_pure _
  read _ := honest_readBack _ _ _

end Volume

namespace Snapshot

theorem honest : (resource (σ := σ)).Honest where
  validate _ := honest_ite (honest_failure _) (honest_pure _)
  read _ := honest_lookUp fun _ => honest_readBack? _ _ _
  planCreate _ := honest_pure _
  planUpdate _ _ := honest_pure _
  create _ := (honest_orReport _ _).bind fun _ => honest_readBack _ _ _
  update _ _ := honest_pure _
  destroy _ := honest_remove (honest_pure _) fun _ => honest_awaitDeletion _ _ _ _
  adopt _ := honest_failure _

end Snapshot

namespace Instance

theorem honest : (resource (σ := σ)).Honest where
  validate _ := honest_checks _
  read _ := honest_lookUp fun _ => honest_readBack? _ _ _
  planCreate _ := honest_pure _
  planUpdate _ _ := honest_pure _
  create _ := (honest_orReport _ _).bind fun _ => honest_readBack _ _ _
  update _ _ := honest_ite (honest_pure _)
    ((honest_orReport _ _).bind fun _ => honest_readBack _ _ _)
  destroy _ := honest_remove (honest_pure _) fun _ => honest_awaitDeletion _ _ _ _
  adopt _ := honest_readBack _ _ _

end Instance

namespace Registry

theorem honest : (resource (σ := σ)).Honest where
  validate config := by
    obtain ⟨-, name, -, -⟩ := config
    cases name with
    | known name => exact honest_ite (honest_failure _) (honest_pure _)
    | null => exact honest_failure _
    | unknown => exact honest_pure _
  read _ := honest_lookUp fun _ => honest_readBack? _ _ _
  planCreate _ := honest_pure _
  planUpdate _ _ := honest_pure _
  create _ := honest_readBack _ _ _
  update _ _ := honest_ite (honest_readBack _ _ _) (honest_pure _)
  destroy _ := (honest_attempt _ _).bind fun _ => honest_pure _
  adopt _ := honest_readBack _ _ _

end Registry

namespace LoadBalancer

theorem honest : (resource (σ := σ)).Honest where
  validate _ := honest_checks _
  read _ := honest_lookUp fun _ => honest_readBack? _ _ _
  planCreate _ := honest_pure _
  planUpdate _ _ := honest_pure _
  create _ := (honest_orReport _ _).bind fun _ => (honest_orReport _ _).bind fun _ =>
    honest_readBack _ _ _
  update _ _ := (honest_orReport _ _).bind fun _ => honest_readBack _ _ _
  destroy _ := honest_remove (honest_pure _) fun _ => honest_awaitDeletion _ _ _ _
  adopt _ := honest_readBack _ _ _

end LoadBalancer

/-! ### The provider -/

namespace Provider

/-- A configuration that cannot be read is an error, and so is what is wrong with it. -/
theorem checked_accountable (config : Document) :
    (checked config : Request σ Configuration).Accountable
      (unreadable Configuration.codec [config]) :=
  (reads_decode Configuration.codec config).accountable.bind fun config =>
    (honest_checks config.validate).bind fun _ => honest_pure config

/-- A configuration takes effect or is reported to come too late. -/
theorem configure_accountable (context : Context) (config : Document) :
    (configure context config : Request σ Context).Accountable
      (unreadable Configuration.codec [config]) := by
  refine (checked_accountable config).bind fun accepted => ?_
  rcases context.configure accepted.settings with ⟨_ | _, next⟩
  · exact (honest_warn _).bind fun _ => honest_pure _
  · exact honest_pure _

/-- Every request returns nothing exactly if it has recorded an error, and only appends to what was
reported. If some of its documents cannot be read, it records one error for each of them and makes
no call. -/
theorem requests_accountable :
    (Volume.resource (σ := σ)).service.Accountable Volume.State.codec ∧
    (Snapshot.resource (σ := σ)).service.Accountable Snapshot.State.codec ∧
    (Instance.resource (σ := σ)).service.Accountable Instance.State.codec ∧
    (Registry.resource (σ := σ)).service.Accountable Registry.State.codec ∧
    (LoadBalancer.resource (σ := σ)).service.Accountable LoadBalancer.State.codec ∧
    (Volume.listing (σ := σ)).service.Accountable Volume.Listing.codec ∧
    (∀ config, (validate config : Request σ Unit).Accountable
      (unreadable Configuration.codec [config])) ∧
    ∀ context config, (configure context config : Request σ Context).Accountable
      (unreadable Configuration.codec [config]) :=
  ⟨Volume.honest.accountable, Snapshot.honest.accountable, Instance.honest.accountable,
    Registry.honest.accountable, LoadBalancer.honest.accountable,
    Volume.listing_honest.accountable,
    fun config => (checked_accountable config).bind fun _ => honest_pure _,
    configure_accountable⟩

end Provider

end CloudProvision
