import Mathlib.Algebra.BigOperators.Group.List.Lemmas
import Mathlib.Algebra.Ring.Nat
import StorageSetup.Proofs.Answered
import StorageSetup.Proofs.Disks
import StorageSetup.Proofs.Settings
/-!
# How many disks a volume set has

Disks are chosen in one pass over the discovered ones: a disk is chosen where the disks of its node
that came before leave room below the limit. So the choice of one node does not depend on how the
disks of the nodes are mixed, a node gives its first disks, and the number of volumes is a sum over
the nodes. A limit beyond 64 bits is read as none, which no list of disks can tell.

Key definitions: `LocalVolumeForm.keep`, `LocalVolumeForm.limit?`, `LocalVolumeForm.disksOf`.
Key theorems: `LocalVolumeForm.keep_passing_concat`, `LocalVolumeForm.filter_keep_passing`,
`LocalVolumeForm.length_keep_passing`, `Session.refreshLocalVolumes_spec`.
-/

namespace StorageSetup

/-! ### Limits -/

section Limit

variable {α : Type}

/-- Behind so many there is room for one more. -/
def hasRoom (limit : Option Nat) (n : Nat) : Bool :=
  limit.all (n < ·)

/-- As many of `n` as the limit allows. -/
def capped (limit : Option Nat) (n : Nat) : Nat :=
  limit.elim n (min · n)

/-- The first entries up to the limit. -/
def firstUpTo (limit : Option Nat) (l : List α) : List α :=
  limit.elim l (l.take ·)

theorem length_firstUpTo (limit : Option Nat) (l : List α) :
    (firstUpTo limit l).length = capped limit l.length := by
  cases limit with
  | none => rfl
  | some k => exact List.length_take

/-- One more entry is taken as long as there is room. -/
theorem firstUpTo_concat (limit : Option Nat) (l : List α) (a : α) :
    firstUpTo limit (l ++ [a]) =
      firstUpTo limit l ++ if hasRoom limit l.length then [a] else [] := by
  cases limit with
  | none => rfl
  | some k =>
    show (l ++ [a]).take k = l.take k ++ if decide (l.length < k) then [a] else []
    by_cases hk : l.length < k
    · have hall : (l ++ [a]).length ≤ k := by
        rw [List.length_append]
        exact hk
      rw [if_pos (decide_eq_true hk), List.take_of_length_le hall,
        List.take_of_length_le (Nat.le_of_lt hk)]
    · rw [if_neg (by simpa using hk), List.append_nil, List.take_append_of_le_length (by omega)]

end Limit

/-- The entries of a list are shared out among the keys. -/
theorem length_eq_sum_countP {α : Type} (key : α → String) {names : List String}
    (hn : names.Nodup) : ∀ l : List α, (∀ a ∈ l, key a ∈ names) →
      l.length = (names.map fun n => l.countP (key · == n)).sum
  | [], _ => by simp
  | a :: l, h => by
    have ih := length_eq_sum_countP key hn l fun b hb => h b (List.mem_cons_of_mem a hb)
    have hone : (names.map fun n => if key a == n then 1 else 0).sum = 1 := by
      have hzero : ∀ n, n ≠ key a → n ∈ names → (if key a == n then 1 else 0) = 0 :=
        fun n hne _ => if_neg (by simpa using hne.symm)
      rw [List.sum_map_eq_nsmul_single (key a) _ hzero,
        List.count_eq_one_of_mem hn (h a List.mem_cons_self), beq_self_eq_true]
      rfl
    simp only [List.countP_cons, List.sum_map_add]
    rw [List.length_cons, hone, ih]

namespace LocalVolumeForm

/-! ### One pass -/

/-- The last entry of a list is kept where those of its key before it leave room. -/
theorem firstOfEach_concat {α : Type} (key : α → String) (limit : Nat) (a : α) :
    ∀ (taken : List String) (l : List α),
      firstOfEach key limit taken (l ++ [a]) = firstOfEach key limit taken l ++
        if taken.count (key a) + l.countP (key · == key a) < limit then [a] else []
  | taken, [] => by
    rw [List.nil_append, firstOfEach, firstOfEach, firstOfEach, List.countP_nil, Nat.add_zero,
      List.nil_append]
    split_ifs <;> rfl
  | taken, b :: l => by
    rw [List.cons_append, firstOfEach, firstOfEach, List.countP_cons]
    by_cases hb : taken.count (key b) < limit
    · have hcount : (key b :: taken).count (key a) + l.countP (key · == key a) =
          taken.count (key a) + (l.countP (key · == key a) + if key b == key a then 1 else 0) := by
        rw [List.count_cons]
        omega
      rw [if_pos hb, if_pos hb, firstOfEach_concat key limit a (key b :: taken) l, hcount,
        List.cons_append]
    · rw [if_neg hb, if_neg hb, firstOfEach_concat key limit a taken l]
      by_cases he : key b = key a
      · -- a key that is passed over has no room any more
        rw [he] at hb
        rw [if_neg (by omega), if_neg (by omega)]
      · have hother : (key b == key a) = false := beq_false_of_ne he
        simp only [hother, Bool.false_eq_true, if_false, Nat.add_zero]

/-- What the pass keeps of a list of disks under a limit, if there is one. -/
def keep (limit : Option Nat) (l : List Device) : List Device :=
  limit.elim l (firstOfEach (·.node) · [] l)

theorem keep_nil (limit : Option Nat) : keep limit [] = [] := by
  cases limit <;> rfl

theorem keep_concat (limit : Option Nat) (l : List Device) (d : Device) :
    keep limit (l ++ [d]) =
      keep limit l ++ if hasRoom limit (l.countP (·.node == d.node)) then [d] else [] := by
  cases limit with
  | none => rfl
  | some k =>
    show firstOfEach _ k [] (l ++ [d]) = firstOfEach _ k [] l ++ if decide _ = true then [d] else []
    rw [firstOfEach_concat, List.count_nil, Nat.zero_add]
    simp only [decide_eq_true_eq]

/-- Nothing is passed over under a limit that the whole list does not reach. -/
theorem firstOfEach_of_length_le {α : Type} (key : α → String) (limit : Nat) :
    ∀ (taken : List String) (l : List α), taken.length + l.length ≤ limit →
      firstOfEach key limit taken l = l
  | _, [], _ => rfl
  | taken, a :: l, h => by
    rw [List.length_cons] at h
    have hcount : taken.count (key a) ≤ taken.length := List.count_le_length
    have hrest : (key a :: taken).length + l.length ≤ limit := by
      rw [List.length_cons]
      omega
    rw [firstOfEach, if_pos (by omega), firstOfEach_of_length_le key limit _ l hrest]

/-- A limit beyond the length of the list is none. -/
theorem keep_filter (limit : Option Nat) {bound : Nat} {l : List Device} (h : l.length ≤ bound) :
    keep (limit.filter (· ≤ bound)) l = keep limit l := by
  cases limit with
  | none => rfl
  | some k =>
    rw [Option.filter_some]
    by_cases hk : k ≤ bound
    · rw [if_pos (decide_eq_true hk)]
    · rw [if_neg (by simpa using hk)]
      exact (firstOfEach_of_length_le _ k [] l (by rw [List.length_nil]; omega)).symm

/-! ### The disks of a node -/

/-- The limit of the form as a number of any size. -/
def limit? (f : LocalVolumeForm) : Option Nat :=
  (Text.parseNat (Text.trim f.maxDiskLimit).toList).filter (0 < ·)

/-- The disks of a node that pass the filter, in the order in which they were found. -/
def disksOf (f : LocalVolumeForm) (devices : List Device) (n : String) : List Device :=
  devices.filter fun d => d.node == n && f.accepts d

/-- The disks of the nodes of the set that pass the filter. -/
def passing (f : LocalVolumeForm) (devices : List Device) : List Device :=
  devices.filter fun d => f.chartNodes.contains d.node && f.accepts d

/-- The disk in a place is on a node of the set and passes the filter, and the disks of its node
before it leave room. -/
def choosesAt (f : LocalVolumeForm) (limit : Option Nat) (devices : List Device)
    (p : Device × Nat) : Bool :=
  f.chartNodes.contains p.1.node && f.accepts p.1 &&
    hasRoom limit (f.disksOf (devices.take p.2) p.1.node).length

variable (f : LocalVolumeForm) (devices : List Device)

theorem disksOf_concat (d : Device) (n : String) : f.disksOf (devices ++ [d]) n =
    f.disksOf devices n ++ if d.node == n && f.accepts d then [d] else [] := by
  unfold disksOf
  rw [List.filter_append, List.filter_cons, List.filter_nil]

theorem passing_concat (d : Device) : f.passing (devices ++ [d]) =
    f.passing devices ++ if f.chartNodes.contains d.node && f.accepts d then [d] else [] := by
  unfold passing
  rw [List.filter_append, List.filter_cons, List.filter_nil]

/-- The disks of a node are the same among those of all nodes of the set. -/
theorem countP_passing {n : String} (hn : f.chartNodes.contains n = true) :
    (f.passing devices).countP (·.node == n) = (f.disksOf devices n).length := by
  unfold disksOf passing
  rw [List.countP_eq_length_filter, List.filter_filter]
  refine congrArg List.length (List.filter_congr fun d _ => ?_)
  by_cases hd : d.node = n
  · rw [hd, hn, Bool.true_and]
  · rw [beq_false_of_ne hd, Bool.false_and, Bool.false_and]

variable (limit : Option Nat)

/-- **A disk is kept where the disks of its node before it leave room.** -/
theorem keep_passing_concat (d : Device) : keep limit (f.passing (devices ++ [d])) =
    keep limit (f.passing devices) ++
      if f.chartNodes.contains d.node && f.accepts d &&
        hasRoom limit (f.disksOf devices d.node).length
      then [d] else [] := by
  rw [passing_concat]
  by_cases hpass : (f.chartNodes.contains d.node && f.accepts d) = true
  · rw [if_pos hpass, keep_concat, hpass, Bool.true_and,
      f.countP_passing devices ((Bool.and_eq_true _ _).mp hpass).1]
  · rw [if_neg hpass, List.append_nil, if_neg, List.append_nil]
    intro hroom
    exact hpass ((Bool.and_eq_true _ _).mp hroom).1

/-- **A node gives its first disks.** -/
theorem filter_keep_passing {n : String} (hn : f.chartNodes.contains n = true) :
    (keep limit (f.passing devices)).filter (·.node == n) =
      firstUpTo limit (f.disksOf devices n) := by
  induction devices using List.reverseRecOn with
  | nil =>
    unfold passing disksOf firstUpTo
    simp only [List.filter_nil, keep_nil]
    cases limit <;> simp
  | append_singleton devices d ih =>
    rw [keep_passing_concat, List.filter_append, ih, disksOf_concat]
    by_cases hd : d.node = n
    · subst hd
      cases ha : f.accepts d with
      | false => simp
      | true =>
        rw [hn, beq_self_eq_true, Bool.true_and, Bool.true_and, if_pos rfl, firstUpTo_concat]
        split_ifs <;> simp
    · -- a disk of another node changes neither side
      have hother : (d.node == n) = false := beq_false_of_ne hd
      rw [hother, Bool.false_and, if_neg Bool.false_ne_true, List.append_nil]
      split_ifs <;> simp [hother]

/-- The disks that are kept by their places. -/
theorem keep_passing_eq : keep limit (f.passing devices) =
    (devices.zipIdx.filter (f.choosesAt limit devices)).map (·.1) := by
  induction devices using List.reverseRecOn with
  | nil => exact keep_nil limit
  | append_singleton devices d ih =>
    have hbefore : ∀ p ∈ devices.zipIdx,
        f.choosesAt limit (devices ++ [d]) p = f.choosesAt limit devices p := by
      intro p hp
      have hlt : p.2 < devices.length := List.snd_lt_of_mem_zipIdx hp
      unfold choosesAt
      rw [List.take_append_of_le_length (Nat.le_of_lt hlt)]
    have hlast : f.choosesAt limit (devices ++ [d]) (d, devices.length) =
        (f.chartNodes.contains d.node && f.accepts d &&
          hasRoom limit (f.disksOf devices d.node).length) := by
      unfold choosesAt
      rw [List.take_left]
    rw [keep_passing_concat, ih, List.zipIdx_append, List.filter_append, List.map_append,
      List.filter_congr hbefore, List.zipIdx_singleton, List.filter_cons, List.filter_nil,
      Nat.zero_add, hlast]
    split_ifs <;> rfl

theorem node_mem_of_mem_keep {d : Device} (hd : d ∈ keep limit (f.passing devices)) :
    d.node ∈ f.chartNodes.names := by
  rw [keep_passing_eq, List.mem_map] at hd
  obtain ⟨p, hp, rfl⟩ := hd
  have hpass := (List.mem_filter.mp hp).2
  rw [choosesAt, Bool.and_eq_true, Bool.and_eq_true] at hpass
  exact NameSet.contains_iff.mp hpass.1.1

/-- **The disks that are kept are counted node by node.** -/
theorem length_keep_passing : (keep limit (f.passing devices)).length =
    (f.chartNodes.names.map fun n => capped limit (f.disksOf devices n).length).sum := by
  rw [length_eq_sum_countP Device.node f.chartNodes.nodup _ fun d =>
    f.node_mem_of_mem_keep devices limit]
  refine congrArg List.sum (List.map_congr_left fun n hn => ?_)
  rw [List.countP_eq_length_filter,
    f.filter_keep_passing devices limit (NameSet.contains_iff.mpr hn), length_firstUpTo]

/-! ### The chosen disks -/

theorem matchingDevices_eq_keep :
    f.matchingDevices devices = keep (readPositive? f.maxDiskLimit) (f.passing devices) := by
  unfold matchingDevices keep passing
  cases readPositive? f.maxDiskLimit <;> rfl

/-- The limit is read as none if it does not fit in 64 bits. -/
theorem readPositive?_eq_limit? :
    readPositive? f.maxDiskLimit = f.limit?.filter (· ≤ Text.maxWord) := by
  unfold readPositive? limit? Text.parseWord
  rw [Option.filter_filter, Option.filter_filter]
  refine congrArg (fun p => Option.filter p _) ?_
  funext n
  exact Bool.and_comm _ _

/-- **A limit beyond 64 bits, which is read as none, passes over no disk.** -/
theorem matchingDevices_eq_keep_limit? (hd : devices.length ≤ Text.maxWord) :
    f.matchingDevices devices = keep f.limit? (f.passing devices) := by
  have hle : (f.passing devices).length ≤ Text.maxWord :=
    Nat.le_trans (List.length_filter_le _ _) hd
  rw [matchingDevices_eq_keep, readPositive?_eq_limit?, keep_filter _ hle]

/-! ### The form with its nodes -/

/-- The form with the nodes that have matching disks. -/
def charted (f : LocalVolumeForm) (allNodes : List String) (devices : List Device) :
    LocalVolumeForm :=
  f.apply (.chartNodes (f.matchingNodes allNodes devices))

variable (allNodes : List String)

theorem charted_charted :
    (f.charted allNodes devices).charted allNodes devices = f.charted allNodes devices := by
  unfold charted
  rw [matchingNodes_chartNodes]
  rfl

variable {devices} {permuted : List Device}

theorem matchingNodes_perm (h : devices.Perm permuted) :
    f.matchingNodes allNodes permuted = f.matchingNodes allNodes devices := by
  refine NameSet.ext_mem fun n => ?_
  rw [mem_matchingNodes, mem_matchingNodes]
  simp only [h.mem_iff]

/-- The order of the disks decides which are chosen, but not how many. -/
theorem length_matchingDevices_perm (h : devices.Perm permuted) :
    (f.matchingDevices permuted).length = (f.matchingDevices devices).length := by
  rw [matchingDevices_eq_keep, matchingDevices_eq_keep, length_keep_passing, length_keep_passing]
  refine congrArg List.sum (List.map_congr_left fun n _ => ?_)
  rw [disksOf, disksOf, (h.filter _).length_eq]

end LocalVolumeForm

namespace Session

variable (w : Session) (allNodes : List String) (devices : List Device)

/-- The settings after the disks were matched. -/
theorem state_refreshLocalVolumes : (w.refreshLocalVolumes allNodes devices).state =
    { w.state with
      localVolumes := w.state.localVolumes.charted allNodes devices
      capacity :=
        { w.state.capacity with
          pvCount := .ofNat
            ((w.state.localVolumes.charted allNodes devices).matchingDevices devices).length } } :=
  rfl

/-- **Matching the disks again changes nothing.** -/
theorem refreshLocalVolumes_idem :
    (w.refreshLocalVolumes allNodes devices).refreshLocalVolumes allNodes devices =
      w.refreshLocalVolumes allNodes devices := by
  have hstate :
      ((w.refreshLocalVolumes allNodes devices).refreshLocalVolumes allNodes devices).state =
        (w.refreshLocalVolumes allNodes devices).state := by
    rw [state_refreshLocalVolumes, state_refreshLocalVolumes]
    simp only [LocalVolumeForm.charted_charted]
  have hb : (w.refreshLocalVolumes allNodes devices).InBounds := inBounds_clamp _
  obtain ⟨count, hagain⟩ := refreshLocalVolumes_eq allNodes devices hb
  rw [hagain] at hstate ⊢
  dsimp only at hstate
  rw [hstate]

/-- **What matching the disks leaves.** The nodes of the set are the candidates with a disk that
passes the filter. The number of volumes is the number of chosen disks: of each node all that pass,
or as many as the limit allows. The chosen ones are the first of their node in the order in which the
disks were found, and that order has no say in the nodes and the number. -/
theorem refreshLocalVolumes_spec (hd : devices.length < UInt32.size) :
    let f := w.state.localVolumes
    let after := w.refreshLocalVolumes allNodes devices
    let nodes := after.state.localVolumes.chartNodes
    let count := after.state.capacity.pvCount
    let chosen := after.state.localVolumes.matchingDevices devices
    (∀ n, n ∈ nodes ↔ n ∈ (if f.selectNodes then f.selectedNodes else allNodes) ∧
      ∃ d ∈ devices, d.node = n ∧ f.accepts d = true) ∧
    count.toNat = (nodes.names.map fun n => capped f.limit? (f.disksOf devices n).length).sum ∧
    nodes.size ≤ count.toNat ∧
    (chosen.length = count.toNat ∧
      chosen = (devices.zipIdx.filter fun p =>
        nodes.contains p.1.node && f.accepts p.1 &&
          hasRoom f.limit? (f.disksOf (devices.take p.2) p.1.node).length).map (·.1) ∧
      ∀ n ∈ nodes, chosen.filter (·.node == n) = firstUpTo f.limit? (f.disksOf devices n)) ∧
    after.refreshLocalVolumes allNodes devices = after ∧
    ∀ permuted, devices.Perm permuted →
      (w.refreshLocalVolumes allNodes permuted).state.localVolumes.chartNodes = nodes ∧
      (w.refreshLocalVolumes allNodes permuted).state.capacity.pvCount = count := by
  intro f after nodes count chosen
  let set := f.charted allNodes devices
  have hword : devices.length ≤ Text.maxWord :=
    calc devices.length
      _ ≤ UInt32.size := Nat.le_of_lt hd
      _ ≤ Text.maxWord := by decide
  have hchosen : chosen.length = count.toNat := by
    have hlt : chosen.length < UInt32.size :=
      Nat.lt_of_le_of_lt (set.matchingDevices_sublist devices).length_le hd
    exact (UInt32.toNat_ofNat_of_lt' hlt).symm
  have hnodes : set.chartNodes = set.matchingNodes allNodes devices :=
    (f.matchingNodes_chartNodes _ allNodes devices).symm
  have hkeep : chosen = LocalVolumeForm.keep f.limit? (set.passing devices) :=
    set.matchingDevices_eq_keep_limit? devices hword
  refine ⟨fun n => LocalVolumeForm.mem_matchingNodes, ?_, ?_, ⟨hchosen, ?_, fun n hn => ?_⟩,
    w.refreshLocalVolumes_idem allNodes devices, ?_⟩
  · rw [← hchosen, hkeep]
    exact set.length_keep_passing devices f.limit?
  · rw [← hchosen]
    exact LocalVolumeForm.size_le_length_matchingDevices hnodes
  · rw [hkeep]
    exact set.keep_passing_eq devices f.limit?
  · rw [hkeep]
    exact set.filter_keep_passing devices f.limit? (NameSet.contains_iff.mpr hn)
  · intro permuted hp
    have hset : f.charted allNodes permuted = set := by
      unfold set LocalVolumeForm.charted
      rw [f.matchingNodes_perm allNodes hp]
    refine ⟨congrArg LocalVolumeForm.chartNodes hset, ?_⟩
    show UInt32.ofNat ((f.charted allNodes permuted).matchingDevices permuted).length =
      UInt32.ofNat (set.matchingDevices devices).length
    rw [hset, set.length_matchingDevices_perm hp]

/-- Disks of two nodes in turn, and one in use. -/
def mixedDisks : List Device :=
  [("n2", "sdb"), ("n1", "sdb"), ("n2", "sdc"), ("n1", "sdc"), ("n2", "sdd")].map fun (node, path) =>
    { node, path, deviceType := "disk", size := 107374182400,
      status := if path = "sdd" then "NotAvailable" else "Available" }

/-- A session whose volume set takes one disk of each node. -/
def oneOfEach : Session :=
  (new {} .builtins).dispatch (.setLocalVolumes (.maxDiskLimit "1"))

theorem refreshLocalVolumes_spec_oneOfEach :
    let after := oneOfEach.refreshLocalVolumes ["n1", "n2", "n3"] mixedDisks
    mixedDisks.length < UInt32.size ∧
    after.state.capacity.pvCount.toNat = 2 ∧
    (∀ n, n ∈ after.state.localVolumes.chartNodes ↔ n ∈ ["n1", "n2", "n3"] ∧
      ∃ d ∈ mixedDisks, d.node = n ∧ oneOfEach.state.localVolumes.accepts d = true) ∧
    after.refreshLocalVolumes ["n1", "n2", "n3"] mixedDisks = after := by
  have hd : mixedDisks.length < UInt32.size := by decide
  obtain ⟨hnodes, _, _, _, hagain, _⟩ :=
    refreshLocalVolumes_spec oneOfEach ["n1", "n2", "n3"] mixedDisks hd
  exact ⟨hd, by decide +kernel, hnodes, hagain⟩

end Session
end StorageSetup
