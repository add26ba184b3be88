import Mathlib.Data.List.Perm.Basic
import Mathlib.Logic.Function.Conjugate
import StorageSetup.Proofs.Slice
/-!
# The consistency rules

The rules that end a change of the mode write different fields, and no rule reads what another one
writes: the modes, which all of them read, are written by none. So the rules can run in any order and
more than once, and what a change of the mode leaves is in order by every one of them.

Key theorems: `State.commute_rules`, `State.foldl_eq_of_perm`, `State.rule_applyModeChange`.
-/

namespace StorageSetup

@[simp] theorem StorageClass.isNoProvisioner_empty :
    ({} : StorageClass).isNoProvisioner = false := by
  decide

@[simp] theorem StorageClass.isNoProvisioner_placeholder : placeholder.isNoProvisioner = true :=
  rfl

namespace State

variable {s t : State}

/-! ### Each rule -/

theorem clearExternalStorage_eq_iff : s.clearExternalStorage = s ↔
    (s.isExternal = false → s.backingStorage.externalStorage = "") := by
  unfold clearExternalStorage isExternal
  split_ifs with h
  · simp [h]
  · refine ⟨fun he _ => ?_, fun he => ?_⟩
    · rw [← he]
    · have hb : s.backingStorage.externalStorage = "" := he (beq_false_of_ne h)
      rw [← hb]

theorem storageClass_normalizeStorageClass (s : State) : s.normalizeStorageClass.storageClass =
    if s.backingStorage.type = .existing then
      if s.storageClass.isNoProvisioner then {} else s.storageClass
    else if s.storageClass.isNoProvisioner then s.storageClass else .placeholder := by
  unfold normalizeStorageClass
  split
  · next ht =>
    rw [if_pos ht]
    split_ifs <;> rfl
  · next ht =>
    rw [if_neg ht]
    split_ifs <;> rfl

/-- The rule for the class writes the class only. -/
theorem normalizeStorageClass_eq (s : State) : s.normalizeStorageClass =
    { s with storageClass := s.normalizeStorageClass.storageClass } := by
  unfold normalizeStorageClass
  split <;> split_ifs <;> rfl

theorem backingStorage_normalizeStorageClass (s : State) :
    s.normalizeStorageClass.backingStorage = s.backingStorage := by
  rw [normalizeStorageClass_eq]

/-- The rule for the class leaves a class of the placeholder's provisioner just on the types that
wait for their class. -/
theorem isNoProvisioner_normalizeStorageClass (s : State) :
    s.normalizeStorageClass.storageClass.isNoProvisioner = true ↔
      s.backingStorage.type ≠ .existing := by
  rw [storageClass_normalizeStorageClass]
  by_cases ht : s.backingStorage.type = .existing
  · rw [if_pos ht]
    split_ifs with hn <;> simp [ht, hn]
  · rw [if_neg ht]
    split_ifs with hn <;> simp [ht, hn]

theorem normalizeStorageClass_eq_iff : s.normalizeStorageClass = s ↔
    (s.storageClass.isNoProvisioner = true ↔ s.backingStorage.type ≠ .existing) := by
  constructor
  · intro h
    have hclass := s.isNoProvisioner_normalizeStorageClass
    rwa [h] at hclass
  · intro h
    rw [normalizeStorageClass_eq, storageClass_normalizeStorageClass]
    by_cases ht : s.backingStorage.type = .existing
    · rw [if_pos ht, if_neg fun hn => h.mp hn ht]
    · rw [if_neg ht, if_pos (h.mpr ht)]

theorem clearExternalStorage_clearExternalStorage (s : State) :
    s.clearExternalStorage.clearExternalStorage = s.clearExternalStorage := by
  unfold clearExternalStorage
  split_ifs <;> rfl

theorem normalizeStorageClass_normalizeStorageClass (s : State) :
    s.normalizeStorageClass.normalizeStorageClass = s.normalizeStorageClass := by
  rw [normalizeStorageClass_eq_iff, backingStorage_normalizeStorageClass]
  exact s.isNoProvisioner_normalizeStorageClass

theorem clearMcgIncompatible_clearMcgIncompatible (s : State) :
    s.clearMcgIncompatible.clearMcgIncompatible = s.clearMcgIncompatible := by
  unfold clearMcgIncompatible
  split_ifs <;> rfl

/-- Every rule run twice is the rule run once. -/
theorem rule_rule {rule : State → State} (h : rule ∈ normalizers) (s : State) :
    rule (rule s) = rule s := by
  simp only [normalizers, List.mem_cons, List.not_mem_nil, or_false] at h
  rcases h with rfl | rfl | rfl
  · exact clearExternalStorage_clearExternalStorage s
  · exact normalizeStorageClass_normalizeStorageClass s
  · exact clearMcgIncompatible_clearMcgIncompatible s

/-! ### The rules together -/

/-- The rule for the vendor and the one for the class read the type, which both leave. -/
theorem commute_vendor_class : Function.Commute clearExternalStorage normalizeStorageClass := by
  intro s
  obtain ⟨_, c, _, ⟨type, _, _, _, _, _, _⟩, _, _, _, _, _, _⟩ := s
  cases type <;> cases hn : c.isNoProvisioner <;>
    simp [clearExternalStorage, normalizeStorageClass, hn]

/-- Both write the backing storage, but different fields of it. -/
theorem commute_vendor_gateway : Function.Commute clearExternalStorage clearMcgIncompatible := by
  intro s
  obtain ⟨_, _, _, ⟨type, deployment, _, _, _, _, _⟩, _, _, _, _, _, _⟩ := s
  cases type <;> cases deployment <;> rfl

/-- The rule for the class reads the type, the one for the gateway the deployment. -/
theorem commute_class_gateway : Function.Commute normalizeStorageClass clearMcgIncompatible := by
  intro s
  obtain ⟨_, c, _, ⟨type, deployment, _, _, _, _, _⟩, _, _, _, _, _, _⟩ := s
  cases type <;> cases deployment <;> cases hn : c.isNoProvisioner <;>
    simp [normalizeStorageClass, clearMcgIncompatible, hn]

/-- **The rules do not interfere**: any two of them can change places. -/
theorem commute_rules {rule rule' : State → State} (h : rule ∈ normalizers)
    (h' : rule' ∈ normalizers) : Function.Commute rule rule' := by
  simp only [normalizers, List.mem_cons, List.not_mem_nil, or_false] at h h'
  rcases h with rfl | rfl | rfl
  · rcases h' with rfl | rfl | rfl
    · exact .refl _
    · exact commute_vendor_class
    · exact commute_vendor_gateway
  · rcases h' with rfl | rfl | rfl
    · exact commute_vendor_class.symm
    · exact .refl _
    · exact commute_class_gateway
  · rcases h' with rfl | rfl | rfl
    · exact commute_vendor_gateway.symm
    · exact commute_class_gateway.symm
    · exact .refl _

/-- **The order of the rules does not matter.** -/
theorem foldl_eq_of_perm {rules : List (State → State)} (h : rules.Perm normalizers) (s : State) :
    rules.foldl (fun s rule => rule s) s = normalizers.foldl (fun s rule => rule s) s := by
  refine h.foldl_eq' (fun rule hr rule' hr' u => ?_) s
  exact (commute_rules (h.mem_iff.mp hr) (h.mem_iff.mp hr') u).symm

/-- A rule can be run before all others as well as after them. -/
theorem rule_foldl {rule : State → State} (hrule : rule ∈ normalizers) :
    ∀ (rules : List (State → State)) (s : State), (∀ f ∈ rules, f ∈ normalizers) →
      rule (rules.foldl (fun s f => f s) s) = rules.foldl (fun s f => f s) (rule s)
  | [], _, _ => rfl
  | f :: rules, s, h => by
    obtain ⟨hf, hrest⟩ := List.forall_mem_cons.mp h
    rw [List.foldl_cons, List.foldl_cons, rule_foldl hrule rules (f s) hrest,
      commute_rules hrule hf s]

/-- A rule changes nothing once it has been run, whichever rules have been run since. -/
theorem rule_foldl_of_mem {rule : State → State} {rules : List (State → State)}
    (h : ∀ f ∈ rules, f ∈ normalizers) (hm : rule ∈ rules) (s : State) :
    rule (rules.foldl (fun s f => f s) s) = rules.foldl (fun s f => f s) s := by
  induction rules generalizing s with
  | nil => cases hm
  | cons f rules ih =>
    obtain ⟨hf, hrest⟩ := List.forall_mem_cons.mp h
    rw [List.foldl_cons]
    rcases List.mem_cons.mp hm with rfl | hm
    · rw [rule_foldl hf rules _ hrest, rule_rule hf]
    · exact ih hrest hm (f s)

/-- Rules that each change nothing change nothing in a row. -/
theorem foldl_eq_of_fixed : ∀ rules : List (State → State), (∀ rule ∈ rules, rule s = s) →
    rules.foldl (fun s rule => rule s) s = s
  | [], _ => rfl
  | rule :: rules, h => by
    obtain ⟨hrule, hrest⟩ := List.forall_mem_cons.mp h
    rw [List.foldl_cons, hrule]
    exact foldl_eq_of_fixed rules hrest

/-- **What a change of the mode leaves is in order by every rule.** -/
theorem rule_applyModeChange {rule : State → State} (h : rule ∈ normalizers) (s : State)
    (m : ModeChange) : rule (s.applyModeChange m) = s.applyModeChange m :=
  rule_foldl_of_mem (fun _ hf => hf) h _

end State

end StorageSetup
