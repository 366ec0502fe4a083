import CloudProvision.Proofs.Configuration.RoundTrip

/-!
# Configurations and the settings they lead to

The bounds of the numbers of a configuration stand in two places: in the check that reports a number
that cannot be used, and where the settings fall back on a default for it. Both follow one table,
`Quantity.all`, which says of each number where it stands, which setting it decides, and how large
it may be.

## Main definitions

* `Quantity`: a number of the configuration with the setting that it decides.
* `Quantity.Overridden`: a number that is given, and that the settings do not use as given.
* `Settings.InRange`: what a provider can rely on.

## Main results

* `Quantity.setting_eq`: the settings by the table.
* `Configuration.paths_validate`: the errors by the table.
* `Configuration.settings_agree`: the errors are those of the numbers that are overridden, and the
  settings are in range in any case.
-/

namespace CloudProvision

/-! ### The numbers of a configuration -/

/-- A number of the configuration, and the setting that it decides. -/
structure Quantity where
  /-- Where the number stands. -/
  path : AttributePath
  given : Configuration → Attr Int
  setting : Settings → Nat
  /-- The largest number that can be used, if there is one. The least is one. -/
  limit : Option Nat
  /-- How many units of the setting make a unit of the number. -/
  scale : Nat

/-- A timeout of the block: its name, what is given for it, and the setting that it decides. -/
structure TimeoutField where
  name : String
  given : TimeoutsBlock → Attr Int
  setting : Timeouts → Nat

/-- The timeouts of the block. -/
def TimeoutField.all : List TimeoutField := [
  ⟨"volume", TimeoutsBlock.volumes, Timeouts.volumes⟩,
  ⟨"snapshot", TimeoutsBlock.snapshots, Timeouts.snapshots⟩,
  ⟨"instance", TimeoutsBlock.instances, Timeouts.instances⟩,
  ⟨"load_balancer", TimeoutsBlock.loadBalancers, Timeouts.loadBalancers⟩]

/-- A timeout is given in minutes and set in seconds. It is absent if the block is, and undecided if
the block is. -/
def TimeoutField.quantity (t : TimeoutField) : Quantity where
  path := ((AttributePath.of "timeouts").index 0).attr t.name
  given c := match c.timeouts with
    | .known block => t.given block
    | .null => .null
    | .unknown => .unknown
  setting s := t.setting s.timeouts
  limit := none
  scale := 60

namespace Quantity

/-- The numbers of a configuration. -/
def all : List Quantity :=
  ⟨.of "poll_interval", Configuration.pollInterval, Settings.pollInterval, none, 1⟩ ::
  ⟨.of "page_size", Configuration.pageSize, Settings.pageSize, some Settings.maxPageSize, 1⟩ ::
  TimeoutField.all.map TimeoutField.quantity

/-- Whether a number can be used. -/
def accepts (q : Quantity) (n : Int) : Bool :=
  0 < n && q.limit.all fun m : Nat => n ≤ m

/-- Whether a number that cannot be used is given. -/
def isRefused (q : Quantity) (c : Configuration) : Bool :=
  match q.given c with
  | .known n => !q.accepts n
  | _ => false

/-- A number is given, and the setting is another one. -/
def Overridden (q : Quantity) (c : Configuration) : Prop :=
  ∃ n, q.given c = .known n ∧ (q.setting c.settings : Int) ≠ n * q.scale

end Quantity

/-! ### Settings by the table -/

/-- A timeout is set from what is given for it. -/
theorem TimeoutField.setting_timeouts {t : TimeoutField} (mem : t ∈ all) (c : Configuration) :
    t.setting c.settings.timeouts =
      Configuration.minutes (t.setting Settings.default.timeouts) (t.quantity.given c) := by
  simp only [all, List.mem_cons, List.not_mem_nil, or_false] at mem
  rcases c with ⟨_, _, _ | _ | _⟩ <;> rcases mem with rfl | rfl | rfl | rfl <;> rfl

namespace Quantity

variable {q : Quantity} {c : Configuration} {n : Int}

/-- A setting is the number if it is given and can be used, and the default otherwise. -/
theorem setting_eq (mem : q ∈ all) (c : Configuration) :
    q.setting c.settings = match q.given c with
      | .known n => if q.accepts n then n.toNat * q.scale else q.setting .default
      | _ => q.setting .default := by
  simp only [all, List.mem_cons, List.mem_map] at mem
  rcases mem with rfl | rfl | ⟨t, mem, rfl⟩
  · rcases h : c.pollInterval with n | _ | _ <;> simp [Configuration.settings, h, accepts]
  · rcases h : c.pageSize with n | _ | _ <;>
      simp [Configuration.settings, h, accepts, Int.lt_iff_add_one_le]
  · refine (t.setting_timeouts mem c).trans ?_
    rcases t.quantity.given c with n | _ | _ <;>
      simp [Configuration.minutes, accepts, TimeoutField.quantity]

/-- The defaults can be used. -/
theorem default_inRange (mem : q ∈ all) : q.scale ≤ q.setting .default ∧
    q.setting .default ≤ Integer64.greatestUnsigned ∧ 0 < q.scale ∧
    q.limit.all (q.setting .default ≤ ·) = true := by
  revert q
  decide

/-- What is not given leaves the default. -/
theorem setting_of_open (mem : q ∈ all) (h : (q.given c).isKnown = false) :
    q.setting c.settings = q.setting .default := by
  rw [setting_eq mem]
  rcases given : q.given c with n | _ | _
  · rw [given] at h
    cases h
  · rfl
  · rfl

/-- A number is used as given exactly if it can be used. A default is no number that cannot be. -/
theorem setting_eq_iff (mem : q ∈ all) (given : q.given c = .known n) :
    (q.setting c.settings : Int) = n * q.scale ↔ q.accepts n = true := by
  rw [setting_eq mem, given]
  by_cases usable : q.accepts n = true
  · have positive : 0 < n := by
      simp only [accepts, Bool.and_eq_true, decide_eq_true_eq] at usable
      exact usable.1
    simp [usable, Int.toNat_of_nonneg (Int.le_of_lt positive)]
  · simp only [usable, Bool.false_eq_true, if_false, iff_false]
    intro same
    obtain ⟨least, -, scale, limited⟩ := default_inRange mem
    have scale : 0 < (q.scale : Int) := by exact_mod_cast scale
    have positive : 0 < n := by
      refine (mul_pos_iff_of_pos_right scale).1 ?_
      rw [← same]
      exact_mod_cast Nat.lt_of_lt_of_le (by omega) least
    have below : n ≤ q.setting .default := by
      rw [same]
      exact le_mul_of_one_le_right (Int.le_of_lt positive) scale
    refine usable ?_
    simp only [accepts, positive, decide_true, Bool.true_and]
    rcases limit : q.limit with - | m
    · rfl
    · simp only [limit, Option.all_some, decide_eq_true_eq] at limited ⊢
      exact Int.le_trans below (Int.ofNat_le.2 limited)

/-- Exactly the numbers that cannot be used are overridden. -/
theorem overridden_iff (mem : q ∈ all) : q.Overridden c ↔ q.isRefused c = true := by
  rw [Overridden, isRefused]
  rcases given : q.given c with n | _ | _
  · simp [setting_eq_iff mem given]
  · simp
  · simp

/-- A setting is at least what the number one is set to. -/
theorem scale_le_setting (mem : q ∈ all) (c : Configuration) : q.scale ≤ q.setting c.settings := by
  have default := (default_inRange mem).1
  rw [setting_eq mem]
  rcases q.given c with n | _ | _
  · by_cases usable : q.accepts n = true
    · simp only [usable, if_true]
      simp only [accepts, Bool.and_eq_true, decide_eq_true_eq] at usable
      exact Nat.le_mul_of_pos_left _ (by omega)
    · simpa [usable] using default
  · exact default
  · exact default

end Quantity

/-! ### Errors by the table -/

/-- Where a number that is refused stands. -/
def Quantity.refusal? (c : Configuration) (q : Quantity) : Option AttributePath :=
  if q.isRefused c then some q.path else none

/-- The path of the first refusal comes first. -/
theorem filterMap_cons_eq_toList_append {α β : Type} (f : α → Option β) (x : α) (xs : List α) :
    (x :: xs).filterMap f = (f x).toList ++ xs.filterMap f := by
  rw [List.filterMap_cons]
  cases f x <;> rfl

/-- A timeout is refused unless it is positive. -/
theorem TimeoutField.refusal?_eq (t : TimeoutField) {c : Configuration} {block : TimeoutsBlock}
    (known : c.timeouts = .known block) : t.quantity.refusal? c = match t.given block with
      | .known n => if n ≤ 0 then some t.quantity.path else none
      | _ => none := by
  have given : t.quantity.given c = t.given block := by simp only [quantity, known]
  rw [Quantity.refusal?, Quantity.isRefused, given]
  rcases t.given block with n | _ | _
  · by_cases positive : n ≤ 0 <;> simp [Quantity.accepts, quantity, positive]
  · rfl
  · rfl

/-- The errors stand at the numbers that are refused, in the order of the table. -/
theorem Configuration.paths_validate (c : Configuration) :
    c.validate.map Diagnostic.path = Quantity.all.filterMap (Quantity.refusal? c) := by
  simp only [Configuration.validate, List.map_append, Quantity.all, List.append_assoc,
    filterMap_cons_eq_toList_append]
  refine congrArg₂ (· ++ ·) ?_ (congrArg₂ (· ++ ·) ?_ ?_)
  · rcases h : c.pollInterval with n | _ | _
    · by_cases positive : n ≤ 0 <;>
        simp [Quantity.refusal?, Quantity.isRefused, Quantity.accepts, h, positive]
    · simp [Quantity.refusal?, Quantity.isRefused, h]
    · simp [Quantity.refusal?, Quantity.isRefused, h]
  · rcases h : c.pageSize with n | _ | _
    · have refused : ¬ (0 < n ∧ n ≤ Settings.maxPageSize) ↔ n < 1 ∨ Settings.maxPageSize < n := by
        omega
      by_cases outside : n < 1 ∨ Settings.maxPageSize < n <;>
        simp [Quantity.refusal?, Quantity.isRefused, Quantity.accepts, h, ← Bool.decide_and,
          refused, outside]
    · simp [Quantity.refusal?, Quantity.isRefused, h]
    · simp [Quantity.refusal?, Quantity.isRefused, h]
  · rw [List.filterMap_map]
    rcases h : c.timeouts with block | _ | _
    · have named : block.named = TimeoutField.all.map fun t => (t.name, t.given block) := rfl
      dsimp only
      rw [named, List.filterMap_map, List.map_filterMap]
      refine List.filterMap_congr fun t _ => ?_
      rw [Function.comp_apply, Function.comp_apply, t.refusal?_eq h]
      rcases t.given block with n | _ | _
      · by_cases positive : n ≤ 0 <;> simp [positive, TimeoutField.quantity]
      · rfl
      · rfl
    · simp [Quantity.refusal?, Quantity.isRefused, TimeoutField.quantity, h]
    · simp [Quantity.refusal?, Quantity.isRefused, TimeoutField.quantity, h]

/-- No two numbers stand in one place. -/
theorem Quantity.eq_of_path_eq {p q : Quantity} (hp : p ∈ all) (hq : q ∈ all)
    (same : p.path = q.path) : p = q := by
  have distinct : (all.map path).Nodup := by decide
  exact List.inj_on_of_nodup_map distinct hp hq same

/-- A number is reported exactly if it is refused. -/
theorem Configuration.reported_iff {q : Quantity} (mem : q ∈ Quantity.all) (c : Configuration) :
    (∃ e ∈ c.validate, e.path = q.path) ↔ q.isRefused c = true := by
  rw [← List.mem_map, c.paths_validate, List.mem_filterMap]
  simp only [Quantity.refusal?, Option.ite_none_right_eq_some, Option.some.injEq]
  constructor
  · rintro ⟨p, hp, refused, same⟩
    exact Quantity.eq_of_path_eq hp mem same ▸ refused
  · intro refused
    exact ⟨q, mem, refused, rfl⟩

/-! ### Settings and errors -/

/-- What a provider can rely on: there is a pause between polls, a page has items and not too many,
and there is time to wait. The numbers are within words of 64 bits. -/
structure Settings.InRange (s : Settings) : Prop where
  pollInterval : 1 ≤ s.pollInterval
  pageSize : 1 ≤ s.pageSize ∧ s.pageSize ≤ maxPageSize
  timeouts : ∀ t ∈ TimeoutField.all, 60 ≤ t.setting s.timeouts
  fits : ∀ q ∈ Quantity.all, q.setting s ≤ Integer64.greatestUnsigned

namespace Configuration

/-- The numbers of a configuration that was read have 64 bits. -/
theorem Kept.le_greatest {c : Configuration} (h : c.Kept) :
    (∀ n, c.pollInterval = .known n → n ≤ Integer64.greatest) ∧
      ∀ n, c.pageSize = .known n → n ≤ Integer64.greatest := by
  have number {x : Attr Int} (faithful : (Codec.attr .integer).Faithful x) {n : Int}
      (known : x = .known n) : n ≤ Integer64.greatest := by
    subst known
    have read : Attr.known <$> Codec.integer.decode (.integer n) = .ok (.known n) :=
      faithful.decode_encode
    obtain ⟨m, inner, -⟩ := map_eq_ok read
    simp only [Codec.integer] at inner
    split at inner
    · next range => exact range.2
    · cases inner
  exact ⟨fun _ => number h.pollInterval, fun _ => number h.pageSize⟩

variable {c : Configuration}

/-- The settings are within words of 64 bits if the numbers are in their units. -/
theorem setting_le_greatestUnsigned {q : Quantity} (mem : q ∈ Quantity.all)
    (fits : ∀ n, q.given c = .known n → n * q.scale ≤ Integer64.greatestUnsigned) :
    q.setting c.settings ≤ Integer64.greatestUnsigned := by
  have default := (Quantity.default_inRange mem).2.1
  rcases given : q.given c with n | _ | _
  · by_cases usable : q.accepts n = true
    · have same := (Quantity.setting_eq_iff mem given).2 usable
      exact Int.ofNat_le.1 (same ▸ fits n given)
    · simpa [Quantity.setting_eq mem, given, usable] using default
  · rwa [Quantity.setting_of_open mem (by rw [given]; rfl)]
  · rwa [Quantity.setting_of_open mem (by rw [given]; rfl)]

/-- The settings are in range, whatever the configuration gives. -/
theorem settings_inRange (fits : ∀ q ∈ Quantity.all, ∀ n, q.given c = .known n →
    n * q.scale ≤ Integer64.greatestUnsigned) : c.settings.InRange where
  pollInterval := Quantity.scale_le_setting List.mem_cons_self c
  pageSize := by
    refine ⟨Quantity.scale_le_setting (List.mem_cons_of_mem _ List.mem_cons_self) c, ?_⟩
    rcases h : c.pageSize with n | _ | _
    · simp only [settings, h]
      split
      · omega
      · decide
    · simp only [settings, h]
      decide
    · simp only [settings, h]
      decide
  timeouts t mem :=
    Quantity.scale_le_setting (List.mem_cons_of_mem _ (List.mem_cons_of_mem _
      (List.mem_map_of_mem mem))) c
  fits q mem := setting_le_greatestUnsigned mem (fits q mem)

/-- The errors of a configuration and the settings that it leads to agree, for each number of it and
whether it is valid or not: a number is reported exactly if it is given and the settings do not use
it as given, and nothing else is. Without errors every number that is given is used, and what is not
given has the default. The settings are in range in any case. -/
theorem settings_agree (d : Document) (c : Configuration) (given : d.decode codec = .ok c)
    (fits : ∀ block, c.timeouts = .known block → ∀ t ∈ TimeoutField.all, ∀ n,
      t.given block = .known n → n * 60 ≤ Integer64.greatestUnsigned) :
    c.settings.InRange ∧
    (∀ q ∈ Quantity.all, (∃ e ∈ c.validate, e.path = q.path) ↔ q.Overridden c) ∧
    (∀ e ∈ c.validate, ∃ q ∈ Quantity.all, e.path = q.path) ∧
    (c.validate = [] → ∀ q ∈ Quantity.all, ∀ n, q.given c = .known n →
      (q.setting c.settings : Int) = n * q.scale) ∧
    ∀ q ∈ Quantity.all, (q.given c).isKnown = false →
      q.setting c.settings = q.setting .default := by
  have reported {q : Quantity} (mem : q ∈ Quantity.all) :
      (∃ e ∈ c.validate, e.path = q.path) ↔ q.Overridden c :=
    (reported_iff mem c).trans (Quantity.overridden_iff mem).symm
  refine ⟨settings_inRange ?_, fun q mem => reported mem, ?_, ?_,
    fun q mem => Quantity.setting_of_open mem⟩
  · obtain ⟨json, -, read⟩ := Codec.decode_of_document given
    obtain ⟨interval, page⟩ := (kept_of_decode read).le_greatest
    have unsigned : Integer64.greatest ≤ Integer64.greatestUnsigned := by decide
    intro q mem n known
    simp only [Quantity.all, List.mem_cons, List.mem_map] at mem
    rcases mem with rfl | rfl | ⟨t, mem, rfl⟩
    · exact (Int.mul_one n).symm ▸ Int.le_trans (interval n known) unsigned
    · exact (Int.mul_one n).symm ▸ Int.le_trans (page n known) unsigned
    · rcases block : c.timeouts with b | _ | _ <;> simp only [TimeoutField.quantity, block] at known
      · exact fits b block t mem n known
      · cases known
      · cases known
  · intro e mem
    have path : e.path ∈ Quantity.all.filterMap (Quantity.refusal? c) :=
      c.paths_validate ▸ List.mem_map_of_mem mem
    obtain ⟨q, mem, refused⟩ := List.mem_filterMap.1 path
    exact ⟨q, mem, (Option.some.inj (Option.ite_none_right_eq_some.1 refused).2).symm⟩
  · intro valid q mem n known
    by_contra other
    obtain ⟨e, reported, -⟩ := (reported mem).2 ⟨n, known, other⟩
    rw [valid] at reported
    cases reported

/-- A configuration with a page that is too large, a timeout that is not positive, one of five
minutes and one that is undecided. -/
def mixedSample : Configuration :=
  ⟨.known 2, .known 5000, .known ⟨.known 5, .known (-1), .null, .unknown⟩⟩

/-- The document that it is read from. -/
def mixedDocument : Document :=
  .ofText ("\x7b\"poll_interval\": 2, \"page_size\": 5000, \"timeouts\": [\x7b" ++
    "\"volume\": 5, \"snapshot\": -1, " ++
    "\"load_balancer\": \"74D93920-ED26-11E3-AC10-0800200C9A66\"\x7d]\x7d")

/-- Its settings are in range, and the numbers that they do not use are those that are reported. -/
theorem settings_agree_sample :
    mixedDocument.decode codec = .ok mixedSample ∧
    (∀ t ∈ TimeoutField.all, ∀ n, t.quantity.given mixedSample = .known n →
      n * 60 ≤ Integer64.greatestUnsigned) ∧
    mixedSample.settings.InRange ∧
    ∀ q ∈ Quantity.all,
      (∃ e ∈ mixedSample.validate, e.path = q.path) ↔ q.Overridden mixedSample := by
  have given : mixedDocument.decode codec = .ok mixedSample :=
    eq_ok_of_toOption (by decide +kernel)
  have fits : ∀ t ∈ TimeoutField.all, ∀ n, t.quantity.given mixedSample = .known n →
      n * 60 ≤ Integer64.greatestUnsigned := by
    simp [TimeoutField.all, TimeoutField.quantity, mixedSample, Integer64.greatestUnsigned]
  obtain ⟨inRange, reported, -⟩ := settings_agree mixedDocument mixedSample given
    (fun block known t mem n => by cases known; exact fits t mem n)
  exact ⟨given, fits, inRange, reported⟩

end Configuration

end CloudProvision
