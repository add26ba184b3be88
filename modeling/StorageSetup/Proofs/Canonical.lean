import StorageSetup.Proofs.Codec
import StorageSetup.Proofs.Gate
/-!
# Canonical values

The canonical form of a value lists the members of every object by name, the last of each name, and
is its own canonical form. A decoder is stable where it makes the same value out of the canonical
form as out of the form that it was given. Every decoder that is put together from stable ones is
stable: to sort the members of an object changes nothing that a record or a dictionary is read from,
as a field that comes twice is refused, any other member is passed over, and of two entries with one
key the last counts both times.

Key definitions: `Json.Canonical`, `Json.Stable`, `Json.Fields.Stable`.
Key theorems: `Json.canonical_canonical`, `Json.stable_record`, `Json.stable_dict`.
-/

namespace StorageSetup

/-! ### Sorted entries -/

section

variable {α : Type}

theorem mem_foldl_insertEntry {e : String × α} : ∀ (l d : List (String × α)),
    e ∈ l.foldl (fun d e => insertEntry e.1 e.2 d) d → e ∈ d ∨ e ∈ l
  | [], _, h => .inl h
  | b :: l, d, h => by
    rcases mem_foldl_insertEntry l _ h with h | h
    · rcases mem_insertEntry h with rfl | h
      · exact .inr List.mem_cons_self
      · exact .inl h
    · exact .inr (List.mem_cons_of_mem _ h)

theorem mem_of_mem_sortEntries {l : List (String × α)} {e : String × α} (h : e ∈ sortEntries l) :
    e ∈ l :=
  (mem_foldl_insertEntry l [] h).resolve_left List.not_mem_nil

theorem sortEntries_of_increasing {l : List (String × α)} (h : Increasing l) :
    sortEntries l = l :=
  foldl_insertEntry_of_increasing l [] h

theorem sortEntries_sortEntries (l : List (String × α)) :
    sortEntries (sortEntries l) = sortEntries l :=
  sortEntries_of_increasing (increasing_sortEntries l)

end

namespace Json

/-! ### The canonical form -/

/-- The value is its own canonical form. -/
def Canonical (v : Json) : Prop :=
  v.canonical = v

theorem canonicalMembers_eq_map : ∀ ms : List (String × Json),
    canonicalMembers ms = ms.map fun e => (e.1, e.2.canonical)
  | [] => rfl
  | e :: ms => congrArg ((e.1, e.2.canonical) :: ·) (canonicalMembers_eq_map ms)

theorem canonicalMembers_of_canonical {ms : List (String × Json)}
    (h : ∀ e ∈ ms, e.2.Canonical) : canonicalMembers ms = ms := by
  rw [canonicalMembers_eq_map]
  refine (List.map_congr_left fun e he => ?_).trans ms.map_id
  exact Prod.ext rfl (h e he)

mutual

/-- **The canonical form is its own canonical form.** -/
theorem canonical_canonical : ∀ v : Json, v.canonical.Canonical
  | null => rfl
  | bool _ => rfl
  | num _ => rfl
  | str _ => rfl
  | arr items => congrArg arr (canonicalItems_canonicalItems items)
  | obj ms => by
    have hms : ∀ e ∈ sortEntries (canonicalMembers ms), e.2.Canonical := fun e he =>
      canonical_of_mem ms e (mem_of_mem_sortEntries he)
    show obj (sortEntries (canonicalMembers (sortEntries (canonicalMembers ms)))) = _
    rw [canonicalMembers_of_canonical hms, sortEntries_sortEntries]
    rfl

theorem canonicalItems_canonicalItems : ∀ items : List Json,
    canonicalItems (canonicalItems items) = canonicalItems items
  | [] => rfl
  | v :: items =>
    congrArg₂ List.cons (canonical_canonical v) (canonicalItems_canonicalItems items)

theorem canonical_of_mem : ∀ ms : List (String × Json), ∀ e ∈ canonicalMembers ms, e.2.Canonical
  | (_, v) :: ms, e, he => by
    rcases List.mem_cons.mp he with rfl | he
    · exact canonical_canonical v
    · exact canonical_of_mem ms e he

end

/-! ### Stable decoders -/

/-- What the decoder makes out of a value it makes out of the canonical form as well. -/
def Stable {α : Type} (d : Decoder α) : Prop :=
  ∀ r v a, d r v = .ok a → d r v.canonical = .ok a

theorem Reads.canonical {α : Type} {d : Decoder α} {v : Json} {a : α} (h : Reads d v a)
    (hd : Stable d) : Reads d v.canonical a :=
  fun r => hd r v a (h r)

theorem Stable.bind {α β : Type} {d : Decoder α} (h : Stable d) (f : α → Except DecodeError β) :
    Stable fun r v => d r v >>= f := by
  intro r v b hb
  obtain ⟨a, ha, hf⟩ := bind_eq_ok_iff.mp hb
  exact bind_eq_ok_iff.mpr ⟨a, h r v a ha, hf⟩

theorem stable_text : Stable text := by
  intro r v a h
  cases v with
  | str s => exact h
  | _ => cases h

theorem stable_natBelow (bound : Nat) (name : String) : Stable (natBelow bound name) := by
  intro r v a h
  cases v with
  | num n => exact h
  | _ => cases h

theorem stable_anything : Stable anything := by
  intro r v a h
  cases h
  exact congrArg Except.ok v.canonical_canonical

section

variable {α : Type} {d : Decoder α}

theorem decodeAll_canonicalItems (hd : Stable d) (r : Reading) : ∀ (items : List Json)
    (as : List α), decodeAll d r items = .ok as → decodeAll d r (canonicalItems items) = .ok as
  | [], _, h => h
  | v :: items, as, h => by
    obtain ⟨a, ha, h⟩ := bind_eq_ok_iff.mp h
    obtain ⟨rest, hrest, h⟩ := bind_eq_ok_iff.mp h
    rw [canonicalItems, decodeAll, hd r v a ha, decodeAll_canonicalItems hd r items rest hrest]
    exact h

theorem stable_list (hd : Stable d) : Stable (list d) := by
  intro r v as h
  cases v with
  | arr items => exact decodeAll_canonicalItems hd r items as h
  | _ => cases h

theorem stable_optional (hd : Stable d) : Stable (optional d) := by
  intro r v o h
  cases v with
  | null => exact h
  | _ =>
    obtain ⟨a, ha, h⟩ := map_eq_ok_iff.mp h
    exact map_eq_ok_iff.mpr ⟨a, hd r _ a ha, h⟩

/-- A choice is a text, or the only member of an object, and stands so in the canonical form. -/
theorem stable_variant (variants : List (String × α)) : Stable (variant variants) := by
  intro r v a h
  cases v with
  | str s => exact h
  | obj ms =>
    obtain _ | ⟨⟨k, v⟩, _ | ⟨e, ms⟩⟩ := ms
    · cases h
    · cases v with
      | null => exact h
      | _ =>
        obtain ⟨b, _, h⟩ := bind_eq_ok_iff.mp h
        cases h
    · cases h
  | _ => cases h

/-! ### Dictionaries -/

theorem decodeMembers_canonicalMembers (hd : Stable d) (r : Reading) :
    ∀ (ms : List (String × Json)) (entries : List (String × α)),
    decodeMembers d r ms = .ok entries → decodeMembers d r (canonicalMembers ms) = .ok entries
  | [], _, h => h
  | (k, v) :: ms, entries, h => by
    obtain ⟨a, ha, h⟩ := bind_eq_ok_iff.mp h
    obtain ⟨rest, hrest, h⟩ := bind_eq_ok_iff.mp h
    rw [canonicalMembers, decodeMembers, hd r v a ha,
      decodeMembers_canonicalMembers hd r ms rest hrest]
    exact h

theorem decodeMembers_insertEntry {r : Reading} {k : String} {v : Json} {a : α}
    (ha : d r v = .ok a) : ∀ (ms : List (String × Json)) (entries : List (String × α)),
    decodeMembers d r ms = .ok entries →
    decodeMembers d r (insertEntry k v ms) = .ok (insertEntry k a entries)
  | [], entries, h => by
    cases h
    rw [insertEntry, decodeMembers, ha]
    rfl
  | (j, w) :: ms, entries, h => by
    obtain ⟨b, hb, hbind⟩ := bind_eq_ok_iff.mp h
    obtain ⟨rest, hrest, hentries⟩ := bind_eq_ok_iff.mp hbind
    cases hentries
    unfold insertEntry
    split_ifs with hlt he
    · rw [decodeMembers, ha, h]
      rfl
    · rw [decodeMembers, ha, hrest]
      rfl
    · rw [decodeMembers, hb, decodeMembers_insertEntry ha ms rest hrest]
      rfl

theorem decodeMembers_foldl_insertEntry (r : Reading) : ∀ (ms : List (String × Json))
    (entries : List (String × α)) (done : List (String × Json)) (out : List (String × α)),
    decodeMembers d r ms = .ok entries → decodeMembers d r done = .ok out →
    decodeMembers d r (ms.foldl (fun d e => insertEntry e.1 e.2 d) done) =
      .ok (entries.foldl (fun d e => insertEntry e.1 e.2 d) out)
  | [], _, _, _, h, hdone => by
    cases h
    exact hdone
  | (_, _) :: ms, _, _, _, h, hdone => by
    obtain ⟨a, ha, h⟩ := bind_eq_ok_iff.mp h
    obtain ⟨rest, hrest, h⟩ := bind_eq_ok_iff.mp h
    cases h
    exact decodeMembers_foldl_insertEntry r ms rest _ _ hrest
      (decodeMembers_insertEntry ha _ _ hdone)

/-- **A dictionary is the same out of sorted members**, the last of each key counting. -/
theorem stable_dict (hd : Stable d) : Stable (dict d) := by
  intro r v out h
  cases v with
  | obj ms =>
    obtain ⟨entries, hentries, rfl⟩ := map_eq_ok_iff.mp h
    have hsorted : decodeMembers d r (sortEntries (canonicalMembers ms)) =
        .ok (sortEntries entries) :=
      decodeMembers_foldl_insertEntry r _ _ [] []
        (decodeMembers_canonicalMembers hd r ms entries hentries) rfl
    refine map_eq_ok_iff.mpr ⟨_, hsorted, ?_⟩
    exact Dict.ofList_entries (.ofList entries)
  | _ => cases h

end

/-! ### Records -/

namespace Fields

/-- The decoder of every field is stable. -/
def Stable : {αs : List Type} → Fields αs → Prop
  | _, nil => True
  | _, cons field rest => Json.Stable field.decode ∧ rest.Stable

section

variable {r : Reading} {k j : String} {v w : Json}

theorem visit_canonical : ∀ {αs : List Type} {fs : Fields αs} {slots next : Slots αs},
    fs.Stable → fs.visit r k v slots = .ok next → fs.visit r k v.canonical slots = .ok next
  | _, nil, _, _, _, h => h
  | _, cons field rest, (slot, slots), next, hfs, h => by
    unfold visit at h ⊢
    split_ifs at h ⊢ with hk hslot
    · obtain ⟨a, ha, h⟩ := map_eq_ok_iff.mp h
      exact map_eq_ok_iff.mpr ⟨a, hfs.1 r v a ha, h⟩
    · obtain ⟨out, hout, h⟩ := map_eq_ok_iff.mp h
      exact map_eq_ok_iff.mpr ⟨out, visit_canonical hfs.2 hout, h⟩

/-- Members of different names are taken in in either order. -/
theorem visit_comm (hkj : k ≠ j) : ∀ {αs : List Type} {fs : Fields αs}
    {slots next last : Slots αs}, fs.visit r k v slots = .ok next →
    fs.visit r j w next = .ok last →
    ∃ other, fs.visit r j w slots = .ok other ∧ fs.visit r k v other = .ok last
  | _, nil, (), (), (), _, _ => ⟨(), rfl, rfl⟩
  | _, cons field rest, (slot, slots), next, last, hk, hj => by
    unfold visit at hk
    split_ifs at hk with hname hslot
    · obtain ⟨a, ha, rfl⟩ := map_eq_ok_iff.mp hk
      have hne : field.name ≠ j := hname ▸ hkj
      unfold visit at hj
      rw [if_neg hne] at hj
      obtain ⟨out, hout, rfl⟩ := map_eq_ok_iff.mp hj
      refine ⟨(slot, out), ?_, ?_⟩
      · rw [visit, if_neg hne, hout]
        rfl
      · rw [visit, if_pos hname, if_neg hslot, ha]
        rfl
    · obtain ⟨mid, hmid, rfl⟩ := map_eq_ok_iff.mp hk
      unfold visit at hj
      split_ifs at hj with hname' hslot
      · obtain ⟨a, ha, rfl⟩ := map_eq_ok_iff.mp hj
        refine ⟨(some a, slots), ?_, ?_⟩
        · rw [visit, if_pos hname', if_neg hslot, ha]
          rfl
        · rw [visit, if_neg hname, hmid]
          rfl
      · obtain ⟨out, hout, rfl⟩ := map_eq_ok_iff.mp hj
        obtain ⟨other, hother, hlast⟩ := visit_comm hkj hmid hout
        refine ⟨(slot, other), ?_, ?_⟩
        · rw [visit, if_neg hname', hother]
          rfl
        · rw [visit, if_neg hname, hlast]
          rfl

/-- A member that comes twice is no field, and is passed over. -/
theorem visit_of_twice : ∀ {αs : List Type} {fs : Fields αs} {slots next last : Slots αs},
    fs.visit r k v slots = .ok next → fs.visit r k w next = .ok last → next = slots
  | _, nil, (), (), (), _, _ => rfl
  | _, cons field rest, (slot, slots), next, last, hk, hj => by
    unfold visit at hk
    split_ifs at hk with hname hslot
    · obtain ⟨a, ha, rfl⟩ := map_eq_ok_iff.mp hk
      unfold visit at hj
      rw [if_pos hname] at hj
      cases hj
    · obtain ⟨mid, hmid, rfl⟩ := map_eq_ok_iff.mp hk
      unfold visit at hj
      rw [if_neg hname] at hj
      obtain ⟨out, hout, rfl⟩ := map_eq_ok_iff.mp hj
      rw [visit_of_twice hmid hout]

end

section

variable {r : Reading} {αs : List Type} {fs : Fields αs}

theorem visitAll_cons {k : String} {v : Json} {ms : List (String × Json)} {slots last : Slots αs} :
    fs.visitAll r ((k, v) :: ms) slots = .ok last ↔
      ∃ next, fs.visit r k v slots = .ok next ∧ fs.visitAll r ms next = .ok last :=
  bind_eq_ok_iff

theorem visitAll_canonicalMembers (hfs : fs.Stable) : ∀ {ms : List (String × Json)}
    {slots last : Slots αs}, fs.visitAll r ms slots = .ok last →
    fs.visitAll r (canonicalMembers ms) slots = .ok last
  | [], _, _, h => h
  | (_, _) :: _, _, _, h => by
    obtain ⟨next, hnext, h⟩ := visitAll_cons.mp h
    exact visitAll_cons.mpr ⟨next, visit_canonical hfs hnext, visitAll_canonicalMembers hfs h⟩

/-- A member that is taken in after others of different names may come before them. -/
theorem visit_before {k : String} {v : Json} : ∀ {ms : List (String × Json)}
    {slots next last : Slots αs}, (∀ e ∈ ms, k ≠ e.1) → fs.visitAll r ms slots = .ok next →
    fs.visit r k v next = .ok last → fs.visitAll r ((k, v) :: ms) slots = .ok last
  | [], slots, next, last, _, h, hv => by
    cases h
    exact visitAll_cons.mpr ⟨last, hv, rfl⟩
  | (j, w) :: ms, slots, next, last, hms, h, hv => by
    obtain ⟨mid, hmid, h⟩ := visitAll_cons.mp h
    obtain ⟨out, hout, hlast⟩ :=
      visitAll_cons.mp (visit_before (fun e he => hms e (List.mem_cons_of_mem _ he)) h hv)
    obtain ⟨other, hother, hout⟩ := visit_comm (hms _ List.mem_cons_self).symm hmid hout
    exact visitAll_cons.mpr ⟨other, hother, visitAll_cons.mpr ⟨out, hout, hlast⟩⟩

/-- A member that is taken in last may stand in its place among sorted ones. -/
theorem visitAll_insertEntry {k : String} {v : Json} : ∀ {ms : List (String × Json)}
    {slots next last : Slots αs}, Increasing ms → fs.visitAll r ms slots = .ok next →
    fs.visit r k v next = .ok last → fs.visitAll r (insertEntry k v ms) slots = .ok last
  | [], _, _, _, _, h, hv => visit_before (by simp) h hv
  | (j, w) :: ms, slots, next, last, hms, h, hv => by
    obtain ⟨hj, hincreasing⟩ := List.pairwise_cons.mp hms
    obtain ⟨mid, hmid, hrest⟩ := visitAll_cons.mp h
    unfold insertEntry
    split_ifs with hlt he
    · refine visit_before (fun e hmem he => ?_) h hv
      rcases List.mem_cons.mp hmem with rfl | hmem
      · exact String.lt_irrefl _ (he ▸ hlt)
      · exact String.lt_irrefl _ (he ▸ String.lt_trans hlt (hj e hmem))
    · -- The earlier member of this name was passed over, so it may as well be left out.
      obtain rfl : k = j := he
      have hlast : fs.visitAll r ((k, v) :: ms) mid = .ok last :=
        visit_before (fun e hmem he => String.lt_irrefl _ (he ▸ hj e hmem)) hrest hv
      obtain ⟨out, hout, _⟩ := visitAll_cons.mp hlast
      rwa [visit_of_twice hmid hout] at hlast
    · exact visitAll_cons.mpr ⟨mid, hmid, visitAll_insertEntry hincreasing hrest hv⟩

theorem visitAll_foldl_insertEntry : ∀ {ms done : List (String × Json)}
    {slots next last : Slots αs}, Increasing done → fs.visitAll r done slots = .ok next →
    fs.visitAll r ms next = .ok last →
    fs.visitAll r (ms.foldl (fun d e => insertEntry e.1 e.2 d) done) slots = .ok last
  | [], _, _, _, _, _, hdone, h => by
    cases h
    exact hdone
  | (_, _) :: ms, _, _, _, _, hincreasing, hdone, h => by
    obtain ⟨mid, hmid, h⟩ := visitAll_cons.mp h
    rw [List.foldl_cons]
    exact visitAll_foldl_insertEntry (increasing_insertEntry hincreasing)
      (visitAll_insertEntry hincreasing hdone hmid) h

theorem fromList_canonicalItems {expected : String} : ∀ {αs : List Type} {fs : Fields αs}
    {index : Nat} {items left : List Json} {values : Values αs}, fs.Stable →
    fs.fromList r expected index items = .ok (values, left) →
    fs.fromList r expected index (canonicalItems items) = .ok (values, canonicalItems left)
  | _, nil, _, _, _, _, _, h => by
    cases h
    rfl
  | _, cons field rest, _, [], _, _, hfs, h => by
    unfold fromList at h
    rw [canonicalItems, fromList]
    split at h
    · next a ha =>
      obtain ⟨⟨as, out⟩, hrest, h⟩ := bind_eq_ok_iff.mp h
      cases h
      have hleft := fromList_canonicalItems hfs.2 hrest
      rw [canonicalItems] at hleft
      rw [hleft]
      rfl
    · cases h
  | _, cons field rest, _, v :: items, _, _, hfs, h => by
    obtain ⟨a, ha, h⟩ := bind_eq_ok_iff.mp h
    obtain ⟨⟨as, out⟩, hrest, h⟩ := bind_eq_ok_iff.mp h
    cases h
    rw [canonicalItems, fromList, hfs.1 r v a ha]
    refine bind_eq_ok_iff.mpr ⟨a, rfl, ?_⟩
    rw [fromList_canonicalItems hfs.2 hrest]
    rfl

end

end Fields

/-- **A record is the same out of sorted members**: fields come once, other members do not count. -/
theorem stable_record {αs : List Type} {name : String} {fs : Fields αs} (hfs : fs.Stable) :
    Stable (record name fs) := by
  intro r v values h
  cases v with
  | obj ms =>
    obtain ⟨slots, hslots, h⟩ := bind_eq_ok_iff.mp h
    refine bind_eq_ok_iff.mpr ⟨slots, ?_, h⟩
    exact Fields.visitAll_foldl_insertEntry .nil rfl (Fields.visitAll_canonicalMembers hfs hslots)
  | arr items =>
    obtain ⟨⟨out, left⟩, hleft, h⟩ := bind_eq_ok_iff.mp h
    refine bind_eq_ok_iff.mpr ⟨_, Fields.fromList_canonicalItems hfs hleft, ?_⟩
    cases left with
    | nil => exact h
    | cons v left => cases h
  | _ => cases h

/-! ### What decoders make -/

/-- Whatever the decoder makes is as the predicate says. -/
def Yields {α : Type} (d : Decoder α) (p : α → Prop) : Prop :=
  ∀ r v a, d r v = .ok a → p a

theorem yields_anything : Yields anything Canonical := by
  intro r v a h
  cases h
  exact v.canonical_canonical

section

variable {α : Type} {d : Decoder α} {p : α → Prop}

theorem yields_list (hd : Yields d p) : Yields (list d) fun as => ∀ a ∈ as, p a := by
  intro r v as h
  cases v with
  | arr items =>
    change decodeAll d r items = .ok as at h
    induction items generalizing as with
    | nil =>
      cases h
      exact List.forall_mem_nil _
    | cons v items ih =>
      obtain ⟨a, ha, h⟩ := bind_eq_ok_iff.mp h
      obtain ⟨rest, hrest, h⟩ := bind_eq_ok_iff.mp h
      cases h
      exact List.forall_mem_cons.mpr ⟨hd r v a ha, ih rest hrest⟩
  | _ => cases h

theorem yields_optional (hd : Yields d p) : Yields (optional d) fun o => ∀ a ∈ o, p a := by
  intro r v o h
  cases v with
  | null =>
    cases h
    exact nofun
  | _ =>
    obtain ⟨a, ha, rfl⟩ := map_eq_ok_iff.mp h
    rintro _ ⟨⟩
    exact hd r _ a ha

theorem decodeMembers_yields (hd : Yields d p) {r : Reading} : ∀ {ms : List (String × Json)}
    {entries : List (String × α)}, decodeMembers d r ms = .ok entries → ∀ e ∈ entries, p e.2
  | [], _, h => by
    cases h
    exact List.forall_mem_nil _
  | (_, v) :: _, _, h => by
    obtain ⟨a, ha, h⟩ := bind_eq_ok_iff.mp h
    obtain ⟨rest, hrest, h⟩ := bind_eq_ok_iff.mp h
    cases h
    exact List.forall_mem_cons.mpr ⟨hd r v a ha, decodeMembers_yields hd hrest⟩

theorem yields_dict (hd : Yields d p) : Yields (dict d) fun out => ∀ e ∈ out.entries, p e.2 := by
  intro r v out h
  cases v with
  | obj ms =>
    obtain ⟨entries, hentries, rfl⟩ := map_eq_ok_iff.mp h
    exact fun e he => decodeMembers_yields hd hentries e (mem_of_mem_sortEntries he)
  | _ => cases h

end

/-- The field has a value of its decoder, or that of a missing member or of a missing place. -/
def Field.Gives {α : Type} (field : Field α) (a : α) : Prop :=
  (∃ r v, field.decode r v = .ok a) ∨ field.absent = some a ∨ field.absentInList = some a

theorem Field.Gives.elim {α : Type} {field : Field α} {a : α} {p : α → Prop} (h : field.Gives a)
    (hd : Yields field.decode p) (habsent : ∀ a, field.absent = some a → p a)
    (hlist : ∀ a, field.absentInList = some a → p a) : p a := by
  obtain ⟨r, v, h⟩ | h | h := h
  · exact hd r v a h
  · exact habsent a h
  · exact hlist a h

namespace Fields

/-- Every value is one that its field gives. -/
def Give : {αs : List Type} → Fields αs → Values αs → Prop
  | _, nil, () => True
  | _, cons field rest, (a, as) => field.Gives a ∧ rest.Give as

/-- Every value met so far is one of the decoder of its field. -/
def Met : {αs : List Type} → Fields αs → Slots αs → Prop
  | _, nil, () => True
  | _, cons field rest, (slot, slots) =>
    (∀ a ∈ slot, ∃ r v, field.decode r v = .ok a) ∧ rest.Met slots

theorem met_blank : ∀ {αs : List Type} (fs : Fields αs), fs.Met fs.blank
  | _, nil => trivial
  | _, cons _ rest => ⟨nofun, rest.met_blank⟩

theorem met_visit {r : Reading} {k : String} {v : Json} : ∀ {αs : List Type} {fs : Fields αs}
    {slots next : Slots αs}, fs.visit r k v slots = .ok next → fs.Met slots → fs.Met next
  | _, nil, (), (), _, _ => trivial
  | _, cons field rest, (slot, slots), next, h, hmet => by
    unfold visit at h
    split_ifs at h with hname hslot
    · obtain ⟨a, ha, rfl⟩ := map_eq_ok_iff.mp h
      refine ⟨?_, hmet.2⟩
      rintro _ ⟨⟩
      exact ⟨r, v, ha⟩
    · obtain ⟨out, hout, rfl⟩ := map_eq_ok_iff.mp h
      exact ⟨hmet.1, met_visit hout hmet.2⟩

theorem met_visitAll {r : Reading} {αs : List Type} {fs : Fields αs} :
    ∀ {ms : List (String × Json)} {slots last : Slots αs}, fs.visitAll r ms slots = .ok last →
    fs.Met slots → fs.Met last
  | [], _, _, h, hmet => by
    cases h
    exact hmet
  | (_, _) :: _, _, _, h, hmet => by
    obtain ⟨next, hnext, h⟩ := visitAll_cons.mp h
    exact met_visitAll h (met_visit hnext hmet)

theorem give_finish : ∀ {αs : List Type} {fs : Fields αs} {slots : Slots αs} {values : Values αs},
    fs.finish slots = .ok values → fs.Met slots → fs.Give values
  | _, nil, (), (), _, _ => trivial
  | _, cons field rest, (slot, slots), values, h, hmet => by
    unfold finish at h
    cases hvalue : slot.or field.absent with
    | none =>
      rw [hvalue] at h
      cases h
    | some a =>
      rw [hvalue] at h
      change (rest.finish slots >>= fun as => .ok (a, as)) = .ok values at h
      obtain ⟨as, has, h⟩ := bind_eq_ok_iff.mp h
      cases h
      refine ⟨?_, give_finish has hmet.2⟩
      cases slot with
      | some b => exact .inl (hmet.1 a hvalue)
      | none => exact .inr (.inl hvalue)

theorem give_fromList {r : Reading} {expected : String} : ∀ {αs : List Type} {fs : Fields αs}
    {index : Nat} {items left : List Json} {values : Values αs},
    fs.fromList r expected index items = .ok (values, left) → fs.Give values
  | _, nil, _, _, _, (), _ => trivial
  | _, cons field rest, _, [], _, _, h => by
    unfold fromList at h
    split at h
    · next a ha =>
      obtain ⟨⟨as, out⟩, hrest, h⟩ := bind_eq_ok_iff.mp h
      cases h
      exact ⟨.inr (.inr ha), give_fromList hrest⟩
    · cases h
  | _, cons field rest, _, v :: items, _, _, h => by
    obtain ⟨a, ha, h⟩ := bind_eq_ok_iff.mp h
    obtain ⟨⟨as, out⟩, hrest, h⟩ := bind_eq_ok_iff.mp h
    cases h
    exact ⟨.inl ⟨r, v, ha⟩, give_fromList hrest⟩

end Fields

theorem give_of_record {αs : List Type} {name : String} {fs : Fields αs} {r : Reading} {v : Json}
    {values : Values αs} (h : record name fs r v = .ok values) : fs.Give values := by
  cases v with
  | obj ms =>
    obtain ⟨slots, hslots, h⟩ := bind_eq_ok_iff.mp h
    exact Fields.give_finish h (Fields.met_visitAll hslots fs.met_blank)
  | arr items =>
    obtain ⟨⟨out, left⟩, hleft, h⟩ := bind_eq_ok_iff.mp h
    cases left with
    | nil =>
      cases h
      exact Fields.give_fromList hleft
    | cons v left => cases h
  | _ => cases h

end Json
end StorageSetup
