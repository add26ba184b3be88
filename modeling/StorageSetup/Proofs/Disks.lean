import Mathlib.Data.List.Perm.Subperm
import StorageSetup.Resource.LocalVolumeSet
/-!
# Matching disks

A volume set stands on the nodes that have a disk passing its filter, and uses of each node as many
of these disks as its limit allows. A limit is positive, so every node of the set gives it a disk,
and the set never has fewer disks than nodes.

Key theorems: `NameSet.size_ofList`, `LocalVolumeForm.mem_matchingNodes`,
`LocalVolumeForm.exists_matchingDevice`, `LocalVolumeForm.size_le_length_matchingDevices`.
-/

namespace StorageSetup

/-! ### Counting names -/

namespace NameSet

variable {s : NameSet} {l : List String}

/-- Different names from a set are no more than its members. -/
theorem length_le_size (hl : l.Nodup) (h : ∀ n ∈ l, n ∈ s) : l.length ≤ s.size :=
  (List.subperm_of_subset hl h).length_le

theorem size_le_length (h : ∀ n ∈ s, n ∈ l) : s.size ≤ l.length :=
  (List.subperm_of_subset s.nodup h).length_le

/-- A list without repetition has as many names as entries. -/
theorem size_ofList (hl : l.Nodup) : (ofList l).size = l.length :=
  Nat.le_antisymm (size_le_length fun _ hn => mem_ofList.mp hn)
    (length_le_size hl fun _ hn => mem_ofList.mpr hn)

end NameSet

theorem readPositive?_pos {text : String} {n : Nat} (h : readPositive? text = some n) : 0 < n := by
  have hn := (Option.filter_eq_some_iff.mp h).2
  exact of_decide_eq_true hn

namespace LocalVolumeForm

/-! ### The first disks of each node -/

theorem firstOfEach_sublist {α : Type} (key : α → String) (limit : Nat) :
    ∀ (taken : List String) (l : List α), (firstOfEach key limit taken l).Sublist l
  | _, [] => List.Sublist.refl []
  | taken, a :: l => by
    rw [firstOfEach]
    split_ifs
    · exact (firstOfEach_sublist key limit _ l).cons_cons a
    · exact (firstOfEach_sublist key limit _ l).cons a

/-- With a positive limit every key is kept, unless it was before. -/
theorem exists_mem_firstOfEach {α : Type} (key : α → String) {limit : Nat} (hl : 0 < limit) :
    ∀ (taken : List String) (l : List α), ∀ a ∈ l,
      key a ∈ taken ∨ ∃ b ∈ firstOfEach key limit taken l, key b = key a
  | taken, b :: l, a, ha => by
    rw [firstOfEach]
    split_ifs with hcount
    · rcases List.mem_cons.mp ha with rfl | ha
      · exact .inr ⟨a, List.mem_cons_self, rfl⟩
      · rcases exists_mem_firstOfEach key hl (key b :: taken) l a ha with hmem | ⟨d, hd, he⟩
        · rcases List.mem_cons.mp hmem with he | hmem
          · exact .inr ⟨b, List.mem_cons_self, he.symm⟩
          · exact .inl hmem
        · exact .inr ⟨d, List.mem_cons_of_mem _ hd, he⟩
    · rcases List.mem_cons.mp ha with rfl | ha
      · -- a key that is passed over has been kept as often as the limit allows
        exact .inl (List.count_pos_iff.mp (by omega))
      · exact exists_mem_firstOfEach key hl taken l a ha

/-! ### Nodes and disks of a volume set -/

variable {f : LocalVolumeForm} {allNodes : List String} {devices : List Device}

/-- The nodes of a volume set are the candidates with a disk that passes the filter. -/
theorem mem_matchingNodes {n : String} : n ∈ f.matchingNodes allNodes devices ↔
    n ∈ f.candidates allNodes ∧ ∃ d ∈ devices, d.node = n ∧ f.accepts d = true := by
  unfold matchingNodes
  simp only [NameSet.mem_ofList, List.mem_map, List.mem_filter, Bool.and_eq_true,
    List.contains_iff_mem]
  constructor
  · rintro ⟨d, ⟨hd, hc, ha⟩, rfl⟩
    exact ⟨hc, d, hd, rfl, ha⟩
  · rintro ⟨hc, d, hd, rfl, ha⟩
    exact ⟨d, ⟨hd, hc, ha⟩, rfl⟩

theorem matchingDevices_sublist (f : LocalVolumeForm) (devices : List Device) :
    (f.matchingDevices devices).Sublist devices := by
  unfold matchingDevices
  split
  · exact List.filter_sublist
  · exact (firstOfEach_sublist _ _ _ _).trans List.filter_sublist

/-- Every node of a volume set gives it a disk. -/
theorem exists_matchingDevice (hf : f.chartNodes = f.matchingNodes allNodes devices) {n : String}
    (hn : n ∈ f.chartNodes) : ∃ d ∈ f.matchingDevices devices, d.node = n := by
  have hn' := hn
  rw [hf] at hn'
  obtain ⟨_, d, hd, rfl, ha⟩ := mem_matchingNodes.mp hn'
  have hpassing : d ∈ devices.filter fun d => f.chartNodes.contains d.node && f.accepts d := by
    rw [List.mem_filter, NameSet.contains_iff.mpr hn, ha]
    exact ⟨hd, rfl⟩
  unfold matchingDevices
  split
  · exact ⟨d, hpassing, rfl⟩
  · next limit hlimit =>
    rcases exists_mem_firstOfEach Device.node (readPositive?_pos hlimit) [] _ d hpassing with h | h
    · cases h
    · exact h

/-- **A volume set has no fewer disks than nodes.** -/
theorem size_le_length_matchingDevices (hf : f.chartNodes = f.matchingNodes allNodes devices) :
    f.chartNodes.size ≤ (f.matchingDevices devices).length := by
  rw [← List.length_map (f := Device.node)]
  refine NameSet.size_le_length fun n hn => ?_
  obtain ⟨d, hd, rfl⟩ := exists_matchingDevice hf hn
  exact List.mem_map_of_mem hd

end LocalVolumeForm

end StorageSetup
