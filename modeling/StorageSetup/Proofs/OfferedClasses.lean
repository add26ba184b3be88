import Mathlib.Data.List.Sort
import Mathlib.Data.Prod.Lex
import Mathlib.Data.String.Basic
import StorageSetup.Cluster.Inventory
/-!
# The order of the storage classes

The classes that provision volumes are offered by a key of two parts: whether a class is used when
none is named, and its name. Classes with the same key stay in the order in which the server has
listed them. These rules leave one list only, and where the names are distinct the order of the
server has no part in it.

Key definitions: `StorageClassInfo.key`, `Inventory.Offer`.
Key theorems: `Inventory.Offer.unique`, `Inventory.usableStorageClasses_spec`.
-/

namespace StorageSetup

/-! ### Keys -/

namespace StorageClassInfo

/-- What the classes are ordered by: the ones that are used when none is named come first, then the
name decides. -/
def key (c : StorageClassInfo) : Bool ×ₗ String :=
  toLex (!c.isDefault, c.name)

variable {a b : StorageClassInfo}

theorem name_eq_of_key (h : a.key = b.key) : a.name = b.name :=
  congrArg (fun k => (ofLex k).2) h

theorem comesBefore_iff : comesBefore a b = true ↔ a.key ≤ b.key := by
  unfold comesBefore key
  rw [Prod.Lex.toLex_le_toLex]
  cases ha : a.isDefault <;> cases hb : b.isDefault <;> simp

theorem comesBefore_trans (a b c : StorageClassInfo) (hab : comesBefore a b = true)
    (hbc : comesBefore b c = true) : comesBefore a c = true := by
  rw [comesBefore_iff] at hab hbc ⊢
  exact le_trans hab hbc

theorem comesBefore_total (a b : StorageClassInfo) :
    (comesBefore a b || comesBefore b a) = true := by
  rw [Bool.or_eq_true, comesBefore_iff, comesBefore_iff]
  exact le_total a.key b.key

/-- **An ordered list is told by the classes of each key.** -/
theorem eq_of_filter_key : ∀ {l m : List StorageClassInfo},
    l.Pairwise (fun a b => a.key ≤ b.key) → m.Pairwise (fun a b => a.key ≤ b.key) →
    (∀ k, l.filter (·.key = k) = m.filter (·.key = k)) → l = m
  | [], [], _, _, _ => rfl
  | [], b :: m, _, _, h => by simpa using h b.key
  | a :: l, [], _, _, h => by simpa using h a.key
  | a :: l, b :: m, hl, hm, h => by
    obtain ⟨hal, hltail⟩ := List.pairwise_cons.mp hl
    obtain ⟨hbm, hmtail⟩ := List.pairwise_cons.mp hm
    -- each of the two heads is in the other list, behind its head
    have hab : a.key ≤ b.key := by
      have hmem : b ∈ (a :: l).filter (·.key = b.key) := by
        rw [h]
        simp
      rcases List.mem_cons.mp (List.mem_of_mem_filter hmem) with rfl | hb
      · exact le_refl _
      · exact hal b hb
    have hba : b.key ≤ a.key := by
      have hmem : a ∈ (b :: m).filter (·.key = a.key) := by
        rw [← h]
        simp
      rcases List.mem_cons.mp (List.mem_of_mem_filter hmem) with rfl | ha
      · exact le_refl _
      · exact hbm a ha
    have hkey : a.key = b.key := le_antisymm hab hba
    have hsame : a :: l.filter (·.key = a.key) = b :: m.filter (·.key = a.key) := by
      simpa [hkey] using h a.key
    obtain ⟨rfl, htail⟩ := List.cons.inj hsame
    have hrest (k : Bool ×ₗ String) : l.filter (·.key = k) = m.filter (·.key = k) := by
      by_cases hk : a.key = k
      · rw [← hk]
        exact htail
      · simpa [hk] using h k
    rw [eq_of_filter_key hltail hmtail hrest]

end StorageClassInfo

/-! ### The list -/

namespace Inventory

/-- The classes that provision volumes in the order of their keys, and those of one key as the
server lists them. -/
structure Offer (i : Inventory) (classes : List StorageClassInfo) : Prop where
  perm : classes.Perm (i.storageClasses.filter (·.provisioner ≠ noProvisioner))
  sorted : classes.Pairwise fun a b => a.key ≤ b.key
  stable : ∀ k, classes.filter (·.key = k) =
    (i.storageClasses.filter (·.provisioner ≠ noProvisioner)).filter (·.key = k)

variable {i j : Inventory}

/-- The rules of an offer leave no choice. -/
theorem Offer.unique {l m : List StorageClassInfo} (hl : i.Offer l) (hm : i.Offer m) : l = m :=
  StorageClassInfo.eq_of_filter_key hl.sorted hm.sorted fun k =>
    (hl.stable k).trans (hm.stable k).symm

theorem usableStorageClasses_perm (i : Inventory) : i.usableStorageClasses.Perm
    (i.storageClasses.filter (·.provisioner ≠ noProvisioner)) :=
  List.mergeSort_perm _ _

theorem usableStorageClasses_sorted (i : Inventory) :
    i.usableStorageClasses.Pairwise fun a b => a.key ≤ b.key := by
  have hsorted : i.usableStorageClasses.Pairwise
      fun a b => StorageClassInfo.comesBefore a b = true :=
    List.pairwise_mergeSort StorageClassInfo.comesBefore_trans StorageClassInfo.comesBefore_total _
  exact hsorted.imp StorageClassInfo.comesBefore_iff.mp

theorem usableStorageClasses_stable (i : Inventory) (k : Bool ×ₗ String) :
    i.usableStorageClasses.filter (·.key = k) =
      (i.storageClasses.filter (·.provisioner ≠ noProvisioner)).filter (·.key = k) := by
  generalize hlisted : i.storageClasses.filter (·.provisioner ≠ noProvisioner) = listed
  have hclasses : i.usableStorageClasses = listed.mergeSort StorageClassInfo.comesBefore := by
    rw [← hlisted]
    rfl
  -- classes of one key are in order however they stand, so the sorting keeps them as they stand
  have hequal : (listed.filter (·.key = k)).Pairwise
      fun a b => StorageClassInfo.comesBefore a b = true := by
    refine List.pairwise_of_forall_mem_list fun a ha b hb => ?_
    have hka : a.key = k := of_decide_eq_true (List.mem_filter.mp ha).2
    have hkb : b.key = k := of_decide_eq_true (List.mem_filter.mp hb).2
    rw [StorageClassInfo.comesBefore_iff, hka, hkb]
  have hsub : (listed.filter (·.key = k)).Sublist i.usableStorageClasses := by
    rw [hclasses]
    exact List.sublist_mergeSort StorageClassInfo.comesBefore_trans
      StorageClassInfo.comesBefore_total hequal List.filter_sublist
  have hfiltered : (listed.filter (·.key = k)).Sublist
      (i.usableStorageClasses.filter (·.key = k)) := by
    simpa [List.filter_filter] using hsub.filter (·.key = k)
  have hperm : i.usableStorageClasses.Perm listed := hlisted ▸ i.usableStorageClasses_perm
  exact (hfiltered.eq_of_length (hperm.filter _).length_eq.symm).symm

theorem offer_usableStorageClasses (i : Inventory) : i.Offer i.usableStorageClasses :=
  ⟨i.usableStorageClasses_perm, i.usableStorageClasses_sorted, i.usableStorageClasses_stable⟩

/-- Where the names are distinct, the order of the server does not matter. -/
theorem usableStorageClasses_eq_of_perm (h : j.storageClasses.Perm i.storageClasses)
    (hnames : (i.storageClasses.map (·.name)).Nodup) :
    j.usableStorageClasses = i.usableStorageClasses := by
  have hperm : j.usableStorageClasses.Perm i.usableStorageClasses :=
    calc j.usableStorageClasses.Perm
          (j.storageClasses.filter (·.provisioner ≠ noProvisioner)) := j.usableStorageClasses_perm
      _ |>.Perm (i.storageClasses.filter (·.provisioner ≠ noProvisioner)) := h.filter _
      _ |>.Perm i.usableStorageClasses := i.usableStorageClasses_perm.symm
  have hlisted : ∀ c ∈ i.usableStorageClasses, c ∈ i.storageClasses := fun c hc =>
    List.mem_of_mem_filter (i.usableStorageClasses_perm.mem_iff.mp hc)
  refine List.Perm.eq_of_pairwise (fun a b ha hb hab hba => ?_) j.usableStorageClasses_sorted
    i.usableStorageClasses_sorted hperm
  exact List.inj_on_of_nodup_map hnames (hlisted a (hperm.mem_iff.mp ha)) (hlisted b hb)
    (StorageClassInfo.name_eq_of_key (le_antisymm hab hba))

/-- **The classes that are offered.** They are those of the server that provision volumes, the ones
that are used when none is named first, then by name, and classes with the same key as the server
lists them; no other list is so. Where the names are distinct, the server may list its classes in
any order. -/
theorem usableStorageClasses_spec (i : Inventory) :
    (∀ classes, i.Offer classes ↔ classes = i.usableStorageClasses) ∧
      ∀ j : Inventory, j.storageClasses.Perm i.storageClasses →
        (i.storageClasses.map (·.name)).Nodup → j.usableStorageClasses = i.usableStorageClasses := by
  refine ⟨fun classes => ⟨fun h => ?_, ?_⟩, fun j hperm hnames => ?_⟩
  · exact h.unique i.offer_usableStorageClasses
  · rintro rfl
    exact i.offer_usableStorageClasses
  · exact usableStorageClasses_eq_of_perm hperm hnames

/-- Four classes in the order of the server, one of them for local devices. -/
def fourClasses : Inventory where
  storageClasses := [
    ⟨"local", noProvisioner, false⟩,
    ⟨"gp2", "ebs.csi.aws.com", false⟩,
    ⟨"gp3", "ebs.csi.aws.com", true⟩,
    ⟨"efs", "efs.csi.aws.com", false⟩]

/-- The list that is offered, for another order of the server too. -/
theorem usableStorageClasses_spec_reversed :
    let offered : List StorageClassInfo := [
      ⟨"gp3", "ebs.csi.aws.com", true⟩,
      ⟨"efs", "efs.csi.aws.com", false⟩,
      ⟨"gp2", "ebs.csi.aws.com", false⟩]
    let j : Inventory := { storageClasses := fourClasses.storageClasses.reverse }
    j.storageClasses.Perm fourClasses.storageClasses ∧
      (fourClasses.storageClasses.map (·.name)).Nodup ∧ fourClasses.Offer offered ∧
      j.usableStorageClasses = offered := by
  intro offered j
  have hperm : j.storageClasses.Perm fourClasses.storageClasses := List.reverse_perm _
  have hnames : (fourClasses.storageClasses.map (·.name)).Nodup := by decide
  have hoffer : fourClasses.Offer offered := by
    refine ⟨by decide, by decide, fun k => ?_⟩
    by_cases hk : k = toLex (true, "gp2")
    · rw [hk]
      decide
    · simp [offered, fourClasses, noProvisioner, StorageClassInfo.key, List.filter_cons, Ne.symm hk]
  have hspec := usableStorageClasses_spec fourClasses
  exact ⟨hperm, hnames, hoffer,
    (hspec.2 j hperm hnames).trans ((hspec.1 offered).mp hoffer).symm⟩

end Inventory
end StorageSetup
