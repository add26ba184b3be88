/-!
# Dictionaries

A dictionary maps texts to values and lists its entries by key, in the order of code points. The
entries are kept strictly increasing, so two dictionaries with the same look-ups are equal.

Key definitions:
- `Dict`: the entries with the proof that their keys increase
- `Dict.insert`, `Dict.get?`, `Dict.ofList`: the last write of a key wins

Key theorems:
- `Dict.get?_insert`: a look-up after a write
- `Dict.ext_get?`: equality by look-ups
- `Dict.insert_comm`: writes of different keys can change places
-/

namespace StorageSetup

/-- Writes an entry into a list of increasing keys, replacing the one of the same key. -/
def insertEntry {α : Type} (k : String) (v : α) : List (String × α) → List (String × α)
  | [] => [(k, v)]
  | e :: rest =>
    if k < e.1 then (k, v) :: e :: rest
    else if k = e.1 then (k, v) :: rest
    else e :: insertEntry k v rest

/-- The value at a key, the first entry of it counting. -/
def lookupEntry {α : Type} (k : String) : List (String × α) → Option α
  | [] => none
  | e :: rest => if e.1 = k then some e.2 else lookupEntry k rest

/-- The entries sorted by key; of several with one key the last stays. -/
def sortEntries {α : Type} (entries : List (String × α)) : List (String × α) :=
  entries.foldl (fun d e => insertEntry e.1 e.2 d) []

/-- The keys increase from entry to entry. -/
def Increasing {α : Type} (entries : List (String × α)) : Prop :=
  entries.Pairwise (fun a b => a.1 < b.1)

theorem mem_insertEntry {α : Type} {k : String} {v : α} {e : String × α}
    {l : List (String × α)} (h : e ∈ insertEntry k v l) : e = (k, v) ∨ e ∈ l := by
  induction l with
  | nil => simpa [insertEntry] using h
  | cons a l ih =>
    simp only [insertEntry] at h
    split at h
    · simpa using h
    · split at h
      · rcases List.mem_cons.1 h with h | h
        · exact .inl h
        · exact .inr (List.mem_cons_of_mem _ h)
      · rcases List.mem_cons.1 h with h | h
        · exact .inr (h ▸ List.mem_cons_self)
        · rcases ih h with h | h
          · exact .inl h
          · exact .inr (List.mem_cons_of_mem _ h)

/-- Writing an entry keeps the keys increasing. -/
theorem increasing_insertEntry {α : Type} {k : String} {v : α} {l : List (String × α)}
    (h : Increasing l) : Increasing (insertEntry k v l) := by
  induction l with
  | nil => simp [Increasing, insertEntry]
  | cons a l ih =>
    obtain ⟨ha, hl⟩ := List.pairwise_cons.1 h
    simp only [insertEntry]
    split
    · next hk =>
      refine List.pairwise_cons.2 ⟨?_, h⟩
      intro b hb
      rcases List.mem_cons.1 hb with rfl | hb
      · exact hk
      · exact String.lt_trans hk (ha b hb)
    · next hk =>
      split
      · next he => exact List.pairwise_cons.2 ⟨fun b hb => he ▸ ha b hb, hl⟩
      · next he =>
        have hak : a.1 < k := by
          rcases Std.lt_trichotomy k a.1 with h | h | h
          · exact absurd h hk
          · exact absurd h he
          · exact h
        refine List.pairwise_cons.2 ⟨?_, ih hl⟩
        intro b hb
        rcases mem_insertEntry hb with rfl | hb
        · exact hak
        · exact ha b hb

theorem increasing_foldl_insertEntry {α : Type} (l d : List (String × α)) (h : Increasing d) :
    Increasing (l.foldl (fun d e => insertEntry e.1 e.2 d) d) := by
  induction l generalizing d with
  | nil => exact h
  | cons e l ih => exact ih _ (increasing_insertEntry h)

theorem increasing_sortEntries {α : Type} (l : List (String × α)) :
    Increasing (sortEntries l) :=
  increasing_foldl_insertEntry l [] List.Pairwise.nil

/-- A key below all keys of a list has no entry there. -/
theorem lookupEntry_eq_none {α : Type} {k : String} {l : List (String × α)}
    (h : ∀ e ∈ l, k < e.1) : lookupEntry k l = none := by
  induction l with
  | nil => rfl
  | cons a l ih =>
    have hne : ¬ a.1 = k := fun he => String.lt_irrefl k (he ▸ h a List.mem_cons_self)
    simp only [lookupEntry, hne, if_false]
    exact ih fun e he => h e (List.mem_cons_of_mem _ he)

/-- **A look-up after a write** gives the written value at its key and the old one elsewhere. -/
theorem lookupEntry_insertEntry {α : Type} (k j : String) (v : α) (l : List (String × α)) :
    lookupEntry j (insertEntry k v l) = if k = j then some v else lookupEntry j l := by
  induction l with
  | nil => simp [insertEntry, lookupEntry]
  | cons a l ih =>
    simp only [insertEntry]
    split
    · simp [lookupEntry]
    · split
      · next he => by_cases h : k = j <;> simp_all [lookupEntry]
      · next he =>
        simp only [lookupEntry, ih]
        by_cases h : a.1 = j
        · have : ¬ k = j := fun hk => he (hk.trans h.symm)
          simp [h, this]
        · simp [h]

/-- Lists of increasing keys with the same look-ups are equal. -/
theorem entries_ext {α : Type} {l m : List (String × α)} (hl : Increasing l) (hm : Increasing m)
    (h : ∀ k, lookupEntry k l = lookupEntry k m) : l = m := by
  induction l generalizing m with
  | nil =>
    cases m with
    | nil => rfl
    | cons b m => simpa [lookupEntry] using h b.1
  | cons a l ih =>
    obtain ⟨ha, hl'⟩ := List.pairwise_cons.1 hl
    cases m with
    | nil => simpa [lookupEntry] using h a.1
    | cons b m =>
      obtain ⟨hb, hm'⟩ := List.pairwise_cons.1 hm
      have hab : a.1 = b.1 := by
        rcases Std.lt_trichotomy a.1 b.1 with hlt | he | hlt
        · have hnone := lookupEntry_eq_none (k := a.1) (l := b :: m) (by
            intro e he
            rcases List.mem_cons.1 he with rfl | he
            · exact hlt
            · exact String.lt_trans hlt (hb e he))
          have := h a.1
          rw [hnone] at this
          simp [lookupEntry] at this
        · exact he
        · have hnone := lookupEntry_eq_none (k := b.1) (l := a :: l) (by
            intro e he
            rcases List.mem_cons.1 he with rfl | he
            · exact hlt
            · exact String.lt_trans hlt (ha e he))
          have := h b.1
          rw [hnone] at this
          simp [lookupEntry] at this
      have hv : a.2 = b.2 := by
        have := h a.1
        simpa [lookupEntry, hab] using this
      have heq : a = b := Prod.ext hab hv
      subst heq
      congr 1
      refine ih hl' hm' fun k => ?_
      by_cases hk : a.1 = k
      · rw [← hk, lookupEntry_eq_none ha, lookupEntry_eq_none hb]
      · have := h k
        simpa [lookupEntry, hk] using this

/-- A finite map from texts, its entries in the order of their keys. -/
structure Dict (α : Type) where
  entries : List (String × α)
  increasing : Increasing entries

namespace Dict

variable {α : Type}

instance [DecidableEq α] : DecidableEq (Dict α) := fun a b =>
  if h : a.entries = b.entries then
    .isTrue (by cases a; cases b; cases h; rfl)
  else
    .isFalse (fun he => h (he ▸ rfl))

def empty : Dict α :=
  ⟨[], List.Pairwise.nil⟩

instance : EmptyCollection (Dict α) := ⟨empty⟩

instance : Inhabited (Dict α) := ⟨empty⟩

/-- Writes the value at the key. -/
def insert (d : Dict α) (k : String) (v : α) : Dict α :=
  ⟨insertEntry k v d.entries, increasing_insertEntry d.increasing⟩

/-- The value at the key. -/
def get? (d : Dict α) (k : String) : Option α :=
  lookupEntry k d.entries

/-- The dictionary of the entries, a later entry replacing an earlier one of its key. -/
def ofList (entries : List (String × α)) : Dict α :=
  ⟨sortEntries entries, increasing_sortEntries entries⟩

/-- The keys, increasing. -/
def keys (d : Dict α) : List String :=
  d.entries.map (·.1)

def isEmpty (d : Dict α) : Bool :=
  d.entries.isEmpty

theorem get?_insert (d : Dict α) (k j : String) (v : α) :
    (d.insert k v).get? j = if k = j then some v else d.get? j :=
  lookupEntry_insertEntry k j v d.entries

/-- Dictionaries with the same look-ups are equal. -/
theorem ext_get? {a b : Dict α} (h : ∀ k, a.get? k = b.get? k) : a = b := by
  cases a with
  | mk l hl =>
    cases b with
    | mk m hm =>
      have : l = m := entries_ext hl hm h
      subst this
      rfl

/-- Of two writes of one key the later stays. -/
theorem insert_insert (d : Dict α) (k : String) (v w : α) :
    (d.insert k v).insert k w = d.insert k w := by
  refine ext_get? fun i => ?_
  simp only [get?_insert]
  split <;> rfl

/-- Writes of different keys can change places. -/
theorem insert_comm (d : Dict α) {j k : String} (h : j ≠ k) (v w : α) :
    (d.insert j v).insert k w = (d.insert k w).insert j v := by
  refine ext_get? fun i => ?_
  simp only [get?_insert]
  by_cases hj : j = i
  · have hk : ¬ k = i := fun hk => h (hj.trans hk.symm)
    simp only [if_pos hj, if_neg hk]
  · simp only [if_neg hj]

end Dict

end StorageSetup
