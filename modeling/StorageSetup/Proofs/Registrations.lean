import Mathlib.Data.List.Induction
import Mathlib.Data.List.Nodup
import StorageSetup.Vendor.Registry
/-!
# The history of a registry

A registry is what a sequence of registrations leaves: for each kind the vendor that was registered
last, and the kinds in the order in which their last registrations came.

Key definitions: `Registry.after`, `Registry.RegisteredBefore`, `Registry.Records`.
Key theorems: `Registry.Records.register`, `Registry.records_after`, `Registry.after_spec`.
-/

namespace StorageSetup.Registry

/-- The registry that the registrations leave. -/
def after (calls : List Vendor) : Registry :=
  calls.foldl register empty

/-- Both kinds were registered, and the last registration of the first came before that of the
second. -/
def RegisteredBefore (calls : List Vendor) (first second : String) : Prop :=
  ∃ earlier later, calls = earlier ++ later ∧ first ∈ earlier.map Vendor.kind ∧
    first ∉ later.map Vendor.kind ∧ second ∈ later.map Vendor.kind

/-- The registry is what the registrations leave. -/
structure Records (calls : List Vendor) (r : Registry) : Prop where
  nodup : r.kinds.Nodup
  latest : ∀ kind, r.get? kind = calls.reverse.find? (·.kind == kind)
  ordered : r.kinds.Pairwise (RegisteredBefore calls)

variable {calls : List Vendor} {r : Registry} {v : Vendor} {kind : String}

/-! ### Kinds and look-ups -/

theorem get?_eq_none_iff : r.get? kind = none ↔ kind ∉ r.kinds := by
  unfold get? kinds
  simp

/-- Where no kind occurs twice, the vendors are those that look-ups give. -/
theorem vendors_eq_of_nodup (h : r.kinds.Nodup) : r.vendors = r.kinds.filterMap r.get? := by
  have hfound : ∀ v ∈ r.vendors, r.get? v.kind = some v := by
    intro v hv
    obtain ⟨w, hw⟩ : ∃ w, r.get? v.kind = some w := by
      rw [← Option.ne_none_iff_exists', ne_eq, get?_eq_none_iff, not_not]
      exact List.mem_map_of_mem hv
    have hkind : w.kind = v.kind := by simpa using List.find?_some hw
    rw [hw, List.inj_on_of_nodup_map h (List.mem_of_find?_eq_some hw) hv hkind]
  unfold kinds
  rw [List.filterMap_map]
  have hsome : r.vendors.filterMap (r.get? ∘ Vendor.kind) = r.vendors.filterMap some :=
    List.filterMap_congr hfound
  rw [hsome, List.filterMap_some]

/-! ### One registration -/

theorem kinds_register (r : Registry) (v : Vendor) :
    (r.register v).kinds = r.kinds.filter (· != v.kind) ++ [v.kind] := by
  unfold kinds register
  rw [List.map_append, List.filter_map]
  rfl

/-- **A look-up after a registration** gives the vendor for its kind and the old one elsewhere. -/
theorem get?_register (r : Registry) (v : Vendor) (kind : String) :
    (r.register v).get? kind = if v.kind = kind then some v else r.get? kind := by
  unfold get? register
  rw [List.find?_append]
  by_cases h : v.kind = kind
  · -- the vendors of the kind have been taken out
    have hout : (r.vendors.filter (fun w => w.kind != v.kind)).find? (·.kind == kind) = none := by
      simp [← h]
    rw [hout, if_pos h, Option.none_or]
    simp [h]
  · have hkept : (r.vendors.filter (fun w => w.kind != v.kind)).find? (·.kind == kind) =
        r.vendors.find? (·.kind == kind) := by
      rw [List.find?_filter]
      refine congrArg (fun p => r.vendors.find? p) (funext fun w => ?_)
      by_cases hw : w.kind = kind
      · simp [hw, Ne.symm h]
      · simp [hw]
    rw [hkept, if_neg h]
    simp [h]

theorem RegisteredBefore.append {first second : String} (h : RegisteredBefore calls first second)
    (hne : first ≠ v.kind) : RegisteredBefore (calls ++ [v]) first second := by
  obtain ⟨earlier, later, rfl, hearlier, hlater, hsecond⟩ := h
  refine ⟨earlier, later ++ [v], List.append_assoc _ _ _, hearlier, ?_, ?_⟩
  · simpa [hne] using hlater
  · rw [List.map_append]
    exact List.mem_append_left _ hsecond

namespace Records

/-- The kinds are those that were registered. -/
theorem mem_kinds_iff (h : Records calls r) : kind ∈ r.kinds ↔ kind ∈ calls.map Vendor.kind := by
  rw [← not_iff_not, ← get?_eq_none_iff, h.latest]
  simp

/-- **A registration is recorded.** -/
theorem register (h : Records calls r) (v : Vendor) :
    Records (calls ++ [v]) (r.register v) where
  nodup := by
    rw [kinds_register]
    refine (h.nodup.filter _).append (List.nodup_singleton _) ?_
    simp
  latest kind := by
    rw [get?_register, List.reverse_append, List.reverse_singleton, List.singleton_append, h.latest]
    by_cases hkind : v.kind = kind <;> simp [hkind]
  ordered := by
    rw [kinds_register, List.pairwise_append]
    refine ⟨?_, List.pairwise_singleton _ _, fun first hfirst second hsecond => ?_⟩
    · refine (h.ordered.filter _).imp_of_mem fun hfirst _ hbefore => hbefore.append ?_
      simpa using (List.mem_filter.mp hfirst).2
    · -- the kind that was registered now is the last one
      obtain ⟨hmem, hne⟩ := List.mem_filter.mp hfirst
      rw [List.mem_singleton.mp hsecond]
      refine ⟨calls, [v], rfl, h.mem_kinds_iff.mp hmem, ?_, List.mem_singleton_self _⟩
      simpa using hne

end Records

/-! ### All registrations -/

/-- Registrations go on where others have ended. -/
theorem after_append (calls more : List Vendor) :
    after (calls ++ more) = more.foldl register (after calls) :=
  List.foldl_append

/-- **A registry records its registrations**, by induction on them from the last one on. -/
theorem records_after (calls : List Vendor) : Records calls (after calls) := by
  induction calls using List.reverseRecOn with
  | nil => exact ⟨List.nodup_nil, fun _ => rfl, List.Pairwise.nil⟩
  | append_singleton calls v ih =>
    rw [after_append]
    exact ih.register v

/-- **The last registration of a kind wins.** Whatever was registered, no kind stands twice in the
registry. A look-up gives the vendor that was registered last for the kind, and nothing exactly
where none was. The registry lists the kinds that were registered in the order of their last
registrations, each with the vendor that a look-up gives. -/
theorem after_spec (calls : List Vendor) :
    (after calls).kinds.Nodup ∧
    (∀ kind, (after calls).get? kind = calls.reverse.find? (·.kind == kind)) ∧
    (∀ kind, (after calls).get? kind = none ↔ kind ∉ calls.map Vendor.kind) ∧
    (∀ kind, kind ∈ (after calls).kinds ↔ kind ∈ calls.map Vendor.kind) ∧
    (after calls).kinds.Pairwise (RegisteredBefore calls) ∧
    (after calls).vendors = (after calls).kinds.filterMap (after calls).get? := by
  have h := records_after calls
  refine ⟨h.nodup, h.latest, fun kind => ?_, fun kind => h.mem_kinds_iff, h.ordered,
    vendors_eq_of_nodup h.nodup⟩
  rw [get?_eq_none_iff, h.mem_kinds_iff]

/-- The vendors that are always there, and the first of them registered again. -/
example : builtins = after [.externalCeph, .flashSystem] ∧
    (builtins.register .externalCeph).kinds = ["FlashSystemCluster", "StorageCluster"] :=
  ⟨rfl, by decide⟩

end StorageSetup.Registry
