/-!
# Sets of names

A set of names lists its members once each, in the order of code points.

Key definitions:
- `NameSet`: the members with the proof that they increase
- `NameSet.insert`, `NameSet.ofList`, `NameSet.contains`

Key theorems:
- `NameSet.mem_ofList`: the members of a collected list
- `NameSet.ext_mem`: equality by membership
-/

namespace StorageSetup

/-- Adds a name to a list of increasing names. -/
def insertName (n : String) : List String → List String
  | [] => [n]
  | m :: rest =>
    if n < m then n :: m :: rest
    else if n = m then m :: rest
    else m :: insertName n rest

theorem mem_insertName {n j : String} {l : List String} :
    j ∈ insertName n l ↔ j = n ∨ j ∈ l := by
  induction l with
  | nil => simp [insertName]
  | cons m l ih =>
    simp only [insertName]
    split
    · simp
    · split
      · next h => subst h; simp
      · simp only [List.mem_cons, ih]
        constructor
        · rintro (h | h | h) <;> simp [h]
        · rintro (h | h | h) <;> simp [h]

/-- Adding a name keeps the list increasing. -/
theorem pairwise_insertName {n : String} {l : List String} (h : l.Pairwise (· < ·)) :
    (insertName n l).Pairwise (· < ·) := by
  induction l with
  | nil => simp [insertName]
  | cons m l ih =>
    obtain ⟨hm, hl⟩ := List.pairwise_cons.1 h
    simp only [insertName]
    split
    · next hn =>
      refine List.pairwise_cons.2 ⟨?_, h⟩
      intro b hb
      rcases List.mem_cons.1 hb with rfl | hb
      · exact hn
      · exact String.lt_trans hn (hm b hb)
    · next hn =>
      split
      · exact h
      · next he =>
        have hmn : m < n := by
          rcases Std.lt_trichotomy n m with h | h | h
          · exact absurd h hn
          · exact absurd h he
          · exact h
        refine List.pairwise_cons.2 ⟨?_, ih hl⟩
        intro b hb
        rcases mem_insertName.1 hb with rfl | hb
        · exact hmn
        · exact hm b hb

/-- A finite set of names in the order of code points. -/
structure NameSet where
  names : List String
  increasing : names.Pairwise (· < ·)

namespace NameSet

instance : DecidableEq NameSet := fun a b =>
  if h : a.names = b.names then
    .isTrue (by cases a; cases b; cases h; rfl)
  else
    .isFalse (fun he => h (he ▸ rfl))

def empty : NameSet :=
  ⟨[], List.Pairwise.nil⟩

instance : EmptyCollection NameSet := ⟨empty⟩

instance : Inhabited NameSet := ⟨empty⟩

instance : Membership String NameSet := ⟨fun s n => n ∈ s.names⟩

instance (n : String) (s : NameSet) : Decidable (n ∈ s) :=
  inferInstanceAs (Decidable (n ∈ s.names))

/-- Adds a name. -/
def insert (s : NameSet) (n : String) : NameSet :=
  ⟨insertName n s.names, pairwise_insertName s.increasing⟩

def contains (s : NameSet) (n : String) : Bool :=
  s.names.contains n

/-- The set of the listed names. -/
def ofList (names : List String) : NameSet :=
  names.foldl insert empty

/-- The number of members. -/
def size (s : NameSet) : Nat :=
  s.names.length

def isEmpty (s : NameSet) : Bool :=
  s.names.isEmpty

theorem mem_insert {s : NameSet} {n j : String} : j ∈ s.insert n ↔ j = n ∨ j ∈ s :=
  mem_insertName

theorem mem_foldl_insert {names : List String} {s : NameSet} {j : String} :
    j ∈ names.foldl insert s ↔ j ∈ names ∨ j ∈ s := by
  induction names generalizing s with
  | nil => simp
  | cons n names ih =>
    rw [List.foldl_cons, ih, mem_insert, List.mem_cons]
    constructor
    · rintro (h | h | h) <;> simp [h]
    · rintro ((h | h) | h) <;> simp [h]

/-- A collected list has exactly the listed members. -/
theorem mem_ofList {names : List String} {j : String} : j ∈ ofList names ↔ j ∈ names := by
  unfold ofList
  rw [mem_foldl_insert]
  constructor
  · rintro (h | h)
    · exact h
    · exact absurd h (List.not_mem_nil)
  · exact .inl

theorem contains_iff {s : NameSet} {n : String} : s.contains n = true ↔ n ∈ s := by
  unfold contains
  rw [List.contains_iff_mem]
  exact Iff.rfl

theorem nodup (s : NameSet) : s.names.Nodup := by
  refine List.Pairwise.imp ?_ s.increasing
  intro a b h he
  exact String.lt_irrefl b (he ▸ h)

/-- Sets with the same members are equal. -/
theorem ext_mem {a b : NameSet} (h : ∀ n, n ∈ a ↔ n ∈ b) : a = b := by
  have hl : a.names = b.names := by
    have key : ∀ l m : List String, l.Pairwise (· < ·) → m.Pairwise (· < ·) →
        (∀ n, n ∈ l ↔ n ∈ m) → l = m := by
      intro l
      induction l with
      | nil =>
        intro m _ _ h
        cases m with
        | nil => rfl
        | cons x m => exact absurd ((h x).2 List.mem_cons_self) List.not_mem_nil
      | cons x l ih =>
        intro m hl hm h
        obtain ⟨hx, hl'⟩ := List.pairwise_cons.1 hl
        cases m with
        | nil => exact absurd ((h x).1 List.mem_cons_self) List.not_mem_nil
        | cons y m =>
          obtain ⟨hy, hm'⟩ := List.pairwise_cons.1 hm
          have hxy : x = y := by
            rcases List.mem_cons.1 ((h x).1 List.mem_cons_self) with he | hxm
            · exact he
            · rcases List.mem_cons.1 ((h y).2 List.mem_cons_self) with he | hyl
              · exact he.symm
              · exact absurd (hx y hyl) (String.lt_asymm (hy x hxm))
          subst hxy
          congr 1
          refine ih m hl' hm' fun n => ?_
          constructor
          · intro hn
            rcases List.mem_cons.1 ((h n).1 (List.mem_cons_of_mem _ hn)) with he | hnm
            · exact absurd (hx n hn) (he ▸ String.lt_irrefl _)
            · exact hnm
          · intro hn
            rcases List.mem_cons.1 ((h n).2 (List.mem_cons_of_mem _ hn)) with he | hnl
            · exact absurd (hy n hn) (he ▸ String.lt_irrefl _)
            · exact hnl
    exact key _ _ a.increasing b.increasing h
  cases a
  cases b
  cases hl
  rfl

end NameSet

end StorageSetup
