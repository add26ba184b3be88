import Mathlib.Data.List.Basic
/-!
# Who is left of those who wrote

Clients read a node and write to it, each what it read and its own addition. What is left of a
history of such accesses is the addition of the last writer and of those that it had read of, so
everybody is left exactly where no client writes between the reading and the writing of another one.

Key definitions: `Access`, `survivors`, `Fresh`, `InOrder`.
Key theorems: `exists_lost_of_not_fresh`, `survives_iff_inOrder`.
-/

namespace StorageSetup

/-- What a client did at a node. -/
inductive Access (ι : Type) where
  | read (i : ι)
  | wrote (i : ι)
  deriving DecidableEq

variable {ι : Type} [DecidableEq ι]

/-- The history up to the last reading of a client. A history has the last access first. -/
def atReading (i : ι) (h : List (Access ι)) : List (Access ι) :=
  h.dropWhile (· ≠ .read i)

/-- Nothing was written since the client read. -/
def Fresh (i : ι) (h : List (Access ι)) : Prop :=
  ∀ j, .wrote j ∉ h.takeWhile (· ≠ .read i)

/-- Nothing was written between a reading and the writing of the client. -/
def InOrder (i : ι) (h : List (Access ι)) : Prop :=
  ∀ earlier, .wrote i :: earlier <:+ h → Fresh i earlier

/-- Nobody wrote twice. -/
def Once (h : List (Access ι)) : Prop :=
  ∀ i earlier, .wrote i :: earlier <:+ h → .wrote i ∉ earlier

/-- The clients whose taints are left: the last writer and those whose taints it read. -/
def survivors : List (Access ι) → List ι
  | [] => []
  | .read _ :: h => survivors h
  | .wrote i :: h => survivors (atReading i h) ++ [i]
termination_by h => h.length
decreasing_by
  · simp
  · exact Nat.lt_succ_of_le (List.dropWhile_sublist _).length_le

theorem survivors_nil : survivors ([] : List (Access ι)) = [] := by
  rw [survivors]

theorem survivors_read (i : ι) (h : List (Access ι)) :
    survivors (.read i :: h) = survivors h := by
  rw [survivors]

theorem survivors_wrote (i : ι) (h : List (Access ι)) :
    survivors (.wrote i :: h) = survivors (atReading i h) ++ [i] := by
  rw [survivors]

variable {i j : ι} {h : List (Access ι)} {a : Access ι}

theorem atReading_cons_of_ne (ha : a ≠ .read i) : atReading i (a :: h) = atReading i h :=
  List.dropWhile_cons_of_pos (by simpa using ha)

theorem atReading_read (i : ι) (h : List (Access ι)) : atReading i (.read i :: h) = .read i :: h :=
  List.dropWhile_cons_of_neg (by simp)

theorem fresh_read (i : ι) (h : List (Access ι)) : Fresh i (.read i :: h) := by
  intro j
  rw [List.takeWhile_cons_of_neg (by simp)]
  exact List.not_mem_nil

/-- Readings of others leave the reading of a client fresh, writings do not. -/
theorem fresh_cons_of_ne (ha : a ≠ .read i) :
    Fresh i (a :: h) ↔ (∀ j, a ≠ .wrote j) ∧ Fresh i h := by
  unfold Fresh
  rw [List.takeWhile_cons_of_pos (by simpa using ha)]
  simp only [List.mem_cons, not_or, forall_and, ne_eq, eq_comm]

theorem mem_of_mem_survivors {i : ι} : ∀ {h : List (Access ι)}, i ∈ survivors h → .wrote i ∈ h
  | [], hi => by
    rw [survivors_nil] at hi
    exact absurd hi List.not_mem_nil
  | .read k :: h, hi => by
    rw [survivors_read] at hi
    exact List.mem_cons_of_mem _ (mem_of_mem_survivors hi)
  | .wrote k :: h, hi => by
    rw [survivors_wrote, List.mem_append, List.mem_singleton] at hi
    rcases hi with hi | rfl
    · have := List.dropWhile_sublist (l := h) (· ≠ .read k)
      exact List.mem_cons_of_mem _ (this.subset (mem_of_mem_survivors hi))
    · exact List.mem_cons_self
termination_by h => h.length
decreasing_by
  · simp
  · exact Nat.lt_succ_of_le (List.dropWhile_sublist _).length_le

/-- A client that reads last of all finds everybody who is left. -/
theorem survivors_atReading_of_fresh : ∀ {h : List (Access ι)}, Fresh i h →
    survivors (atReading i h) = survivors h
  | [], _ => rfl
  | a :: h, hf => by
    by_cases ha : a = .read i
    · rw [ha, atReading_read]
    · obtain ⟨hread, hf⟩ := (fresh_cons_of_ne ha).mp hf
      rw [atReading_cons_of_ne ha, survivors_atReading_of_fresh hf]
      cases a with
      | read k => rw [survivors_read]
      | wrote k => exact absurd rfl (hread k)

omit [DecidableEq ι] in
theorem once_cons (hh : Once h) (ha : ∀ i, a = .wrote i → a ∉ h) : Once (a :: h) := by
  intro i earlier he
  rcases List.suffix_cons_iff.mp he with he | he
  · obtain ⟨rfl, rfl⟩ := List.cons.inj he
    exact ha i rfl
  · exact hh i _ he

omit [DecidableEq ι] in
theorem once_of_suffix {h' : List (Access ι)} (hh : h' <:+ h) (ho : Once h) : Once h' :=
  fun i _ hi => ho i _ (hi.trans hh)

theorem inOrder_of_suffix {h' : List (Access ι)} (hh : h' <:+ h) (ho : InOrder i h) :
    InOrder i h' :=
  fun _ hi => ho _ (hi.trans hh)

theorem inOrder_cons_of_ne (ha : a ≠ .wrote i) : InOrder i (a :: h) ↔ InOrder i h := by
  refine ⟨inOrder_of_suffix (List.suffix_cons a h), fun ho earlier he => ?_⟩
  rcases List.suffix_cons_iff.mp he with he | he
  · exact absurd (List.cons.inj he).1.symm ha
  · exact ho _ he

theorem inOrder_wrote : InOrder i (.wrote i :: h) ↔ Fresh i h ∧ InOrder i h := by
  refine ⟨fun ho => ⟨ho _ List.suffix_rfl, inOrder_of_suffix (List.suffix_cons _ h) ho⟩, ?_⟩
  rintro ⟨hf, ho⟩ earlier he
  rcases List.suffix_cons_iff.mp he with he | he
  · exact (List.cons.inj he).2 ▸ hf
  · exact ho _ he

/-- A write that is not fresh takes away the taint of a client that wrote in between. -/
theorem exists_lost_of_not_fresh (ho : Once h) (hf : ¬ Fresh i h) :
    ∃ j, .wrote j ∈ h ∧ j ∉ survivors (atReading i h) := by
  unfold Fresh at hf
  simp only [not_forall, not_not] at hf
  obtain ⟨j, hj⟩ := hf
  obtain ⟨later, between, hsplit⟩ := List.append_of_mem hj
  have hh : h = later ++ .wrote j :: (between ++ atReading i h) := by
    conv_lhs => rw [← List.takeWhile_append_dropWhile (p := (· ≠ .read i)) (l := h), hsplit]
    simp [atReading]
  refine ⟨j, hh ▸ List.mem_append_right _ List.mem_cons_self, fun hs => ?_⟩
  refine ho j (between ++ atReading i h) ⟨later, hh.symm⟩ ?_
  exact List.mem_append_right _ (mem_of_mem_survivors hs)

/-- Behind a new write everybody is left exactly where its client has read the taints of all. -/
theorem survives_wrote_iff (hnew : .wrote i ∉ h) :
    (∀ j, .wrote j ∈ Access.wrote i :: h → j ∈ survivors (.wrote i :: h)) ↔
      ∀ j, .wrote j ∈ h → j ∈ survivors (atReading i h) := by
  rw [survivors_wrote]
  constructor
  · intro hall j hj
    rcases List.mem_append.mp (hall j (List.mem_cons_of_mem _ hj)) with hs | hs
    · exact hs
    · rw [List.mem_singleton.mp hs] at hj
      exact absurd hj hnew
  · intro hall j hj
    rcases List.mem_cons.mp hj with hj | hj
    · cases hj
      exact List.mem_append_right _ (List.mem_singleton.mpr rfl)
    · exact List.mem_append_left _ (hall j hj)

theorem forall_inOrder_wrote_iff :
    (∀ j, InOrder j (.wrote i :: h)) ↔ Fresh i h ∧ ∀ j, InOrder j h := by
  constructor
  · intro hall
    exact ⟨(inOrder_wrote.mp (hall i)).1,
      fun j => inOrder_of_suffix (List.suffix_cons _ h) (hall j)⟩
  · rintro ⟨hf, hall⟩ j
    by_cases hj : j = i
    · rw [hj]
      exact inOrder_wrote.mpr ⟨hf, hall i⟩
    · exact (inOrder_cons_of_ne (by simpa using Ne.symm hj)).mpr (hall j)

/-- **All taints that were written are left exactly where nobody wrote between the reading and the
writing of a client.** -/
theorem survives_iff_inOrder : ∀ {h : List (Access ι)}, Once h →
    ((∀ i, .wrote i ∈ h → i ∈ survivors h) ↔ ∀ i, InOrder i h)
  | [], _ => by
    refine iff_of_true (fun i hi => absurd hi List.not_mem_nil) fun i earlier he => ?_
    cases List.suffix_nil.mp he
  | .read k :: h, ho => by
    have hk (i : ι) : Access.read k ≠ .wrote i := by simp
    simp only [survivors_read, inOrder_cons_of_ne (hk _), List.mem_cons, (hk _).symm, false_or]
    exact survives_iff_inOrder (once_of_suffix (List.suffix_cons _ h) ho)
  | .wrote k :: h, ho => by
    have ho' := once_of_suffix (List.suffix_cons _ h) ho
    rw [survives_wrote_iff (ho k h List.suffix_rfl), forall_inOrder_wrote_iff,
      ← survives_iff_inOrder ho']
    constructor
    · intro hall
      have hf : Fresh k h := by
        by_contra hf
        obtain ⟨j, hj, hlost⟩ := exists_lost_of_not_fresh ho' hf
        exact hlost (hall j hj)
      exact ⟨hf, survivors_atReading_of_fresh hf ▸ hall⟩
    · rintro ⟨hf, hall⟩
      rwa [survivors_atReading_of_fresh hf]

end StorageSetup
