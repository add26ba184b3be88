import Mathlib.Data.List.Nodup
import StorageSetup.Choice
import StorageSetup.Node
/-!
# Reading back what was written

A value is read back where its decoder makes it out of its saved form, in whatever way the form is
read. Texts, numbers, lists, sets and dictionaries are read back, a choice from its code, and a
record from an object where each field finds its member there, in whatever order the members stand,
or may be missing and has the value of a missing one. A tag decides by what reader the value beside
it is read.

Key definitions: `Json.Reads`, `Json.Fields.Holds`, `Json.Fields.Awaits`, `Json.Content.Yields`.
Key theorems: `Json.reads_record`, `Json.reads_coded`, `Json.reads_tagged`, `Json.yields_of_tagged`.
-/

namespace StorageSetup

/-! ### Entries -/

section

variable {α : Type} {k : String} {l : List (String × α)}

theorem mem_of_lookupEntry {v : α} (h : lookupEntry k l = some v) : (k, v) ∈ l := by
  induction l with
  | nil => cases h
  | cons e l ih =>
    rw [lookupEntry] at h
    split_ifs at h with he
    · cases h
      exact he ▸ List.mem_cons_self
    · exact List.mem_cons_of_mem _ (ih h)

/-- An entry is found under its key where no key stands twice. -/
theorem lookupEntry_of_mem {e : String × α} (hkeys : (l.map (·.1)).Nodup) (he : e ∈ l) :
    lookupEntry e.1 l = some e.2 := by
  induction l with
  | nil => cases he
  | cons a l ih =>
    rw [List.map_cons, List.nodup_cons] at hkeys
    rcases List.mem_cons.mp he with rfl | he
    · exact if_pos rfl
    · have hne : a.1 ≠ e.1 := fun h => hkeys.1 (h ▸ List.mem_map_of_mem he)
      rw [lookupEntry, if_neg hne]
      exact ih hkeys.2 he

/-- An entry behind all others is written at the end. -/
theorem insertEntry_of_lt {v : α} (h : ∀ e ∈ l, e.1 < k) : insertEntry k v l = l ++ [(k, v)] := by
  induction l with
  | nil => rfl
  | cons e l ih =>
    have hlt : e.1 < k := h e List.mem_cons_self
    have hne : k ≠ e.1 := fun he => String.lt_irrefl k (he ▸ hlt)
    rw [insertEntry, if_neg (String.lt_asymm hlt), if_neg hne,
      ih fun b hb => h b (List.mem_cons_of_mem _ hb)]
    rfl

theorem foldl_insertEntry_of_increasing : ∀ (l d : List (String × α)), Increasing (d ++ l) →
    l.foldl (fun d e => insertEntry e.1 e.2 d) d = d ++ l
  | [], d, _ => (List.append_nil d).symm
  | e :: l, d, h => by
    have hd : ∀ b ∈ d, b.1 < e.1 := fun b hb =>
      (List.pairwise_append.mp h).2.2 b hb e List.mem_cons_self
    rw [List.append_cons] at h
    rw [List.foldl_cons, insertEntry_of_lt hd, foldl_insertEntry_of_increasing l _ h,
      ← List.append_cons]

end

/-- A dictionary is collected again from its entries. -/
theorem Dict.ofList_entries {α : Type} (d : Dict α) : Dict.ofList d.entries = d := by
  have h : sortEntries d.entries = d.entries :=
    foldl_insertEntry_of_increasing d.entries [] d.increasing
  unfold ofList
  simp only [h]

theorem lookupEntry_map {α β : Type} (f : α → β) (key : String) : ∀ l : List (String × α),
    lookupEntry key (l.map fun e => (e.1, f e.2)) = (lookupEntry key l).map f
  | [] => rfl
  | e :: l => by
    simp only [List.map_cons, lookupEntry]
    split_ifs
    · rfl
    · exact lookupEntry_map f key l

theorem Json.member?_ofDict {α : Type} (f : α → Json) (d : Dict α) (key : String) :
    (Json.ofDict f d).member? key = (d.get? key).map f :=
  lookupEntry_map f key d.entries

theorem Json.member?_texts (d : Dict String) (key : String) :
    (Json.texts d).member? key = (d.get? key).map .str :=
  member?_ofDict .str d key

theorem NameSet.ofList_names (s : NameSet) : NameSet.ofList s.names = s :=
  NameSet.ext_mem fun _ => NameSet.mem_ofList

namespace Json

/-- The decoder makes the value out of the saved form, however the form is read. -/
def Reads {α : Type} (d : Decoder α) (v : Json) (a : α) : Prop :=
  ∀ r, d r v = .ok a

theorem Reads.bind {α β : Type} {d : Decoder α} {f : α → Except DecodeError β} {v : Json} {a : α}
    {b : β} (h : Reads d v a) (hf : f a = .ok b) : Reads (fun r v => d r v >>= f) v b := by
  intro r
  show d r v >>= f = .ok b
  rw [h r]
  exact hf

theorem Reads.map {α β : Type} {d : Decoder α} {v : Json} {a : α} (h : Reads d v a) (f : α → β) :
    Reads (fun r v => (d r v).map f) v (f a) := by
  intro r
  show (d r v).map f = .ok (f a)
  rw [h r]
  rfl

/-! ### Texts, numbers and lists -/

@[simp] theorem reads_text (s : String) : Reads text (.str s) s :=
  fun _ => rfl

@[simp] theorem reads_boolean (b : Bool) : Reads boolean (.bool b) b :=
  fun _ => rfl

theorem reads_natBelow {bound n : Nat} (name : String) (h : n < bound) :
    Reads (natBelow bound name) (.nat n) n :=
  fun _ => if_pos h

@[simp] theorem reads_word32 (n : UInt32) : Reads word32 (.nat n.toNat) n.toNat :=
  reads_natBelow _ n.toNat_lt

@[simp] theorem reads_word64 (n : UInt64) : Reads word64 (.nat n.toNat) n.toNat :=
  reads_natBelow _ n.toNat_lt

/-- A number that is finite is written as it is. -/
theorem reads_float {x : Float} (h : x.isFinite = true) : Reads float (.real x) x := by
  intro r
  unfold real
  rw [if_pos h]
  rfl

section

variable {α β : Type} {d : Decoder α} {f : α → Json}

theorem reads_list (l : List α) (h : ∀ a ∈ l, Reads d (f a) a) :
    Reads (list d) (.arr (l.map f)) l := by
  intro r
  show decodeAll d r (l.map f) = .ok l
  induction l with
  | nil => rfl
  | cons a l ih =>
    rw [List.map_cons, decodeAll, h a List.mem_cons_self r,
      ih fun b hb => h b (List.mem_cons_of_mem _ hb)]
    rfl

@[simp] theorem reads_strings (l : List String) : Reads (list text) (.strings l) l :=
  reads_list l fun s _ => reads_text s

theorem reads_optional {v : Json} {a : α} (hv : v ≠ .null) (h : Reads d v a) :
    Reads (optional d) v (some a) := by
  intro r
  unfold optional
  split
  · exact absurd rfl hv
  · rw [h r]
    rfl

/-- A text that may be missing is null where it is. -/
@[simp] theorem reads_ofOption (o : Option String) : Reads (optional text) (.ofOption .str o) o := by
  cases o with
  | none => exact fun _ => rfl
  | some s => exact reads_optional nofun (reads_text s)

theorem decodeMembers_map (r : Reading) : ∀ l : List (String × α),
    (∀ e ∈ l, Reads d (f e.2) e.2) → decodeMembers d r (l.map fun e => (e.1, f e.2)) = .ok l
  | [], _ => rfl
  | e :: l, h => by
    obtain ⟨he, hl⟩ := List.forall_mem_cons.mp h
    rw [List.map_cons, decodeMembers, he r, decodeMembers_map r l hl]
    rfl

theorem reads_dict (entries : Dict α) (h : ∀ e ∈ entries.entries, Reads d (f e.2) e.2) :
    Reads (dict d) (.ofDict f entries) entries := by
  intro r
  show (decodeMembers d r (entries.entries.map _)).map Dict.ofList = _
  rw [decodeMembers_map r _ h]
  exact congrArg Except.ok entries.ofList_entries

/-- A choice is read back from its code where no two choices share one. -/
theorem reads_coded {code : α → String} {all : List α} (hcode : (all.map code).Nodup) {a : α}
    (ha : a ∈ all) : Reads (variant (coded code all)) (.str (code a)) a := by
  have hlookup : lookupEntry (code a) (coded code all) = some a := by
    induction all with
    | nil => cases ha
    | cons b l ih =>
      obtain ⟨hb, hl⟩ := List.nodup_cons.mp hcode
      show (if code b = code a then some b else lookupEntry (code a) (coded code l)) = some a
      rcases List.mem_cons.mp ha with rfl | ha
      · exact if_pos rfl
      · have hne : code b ≠ code a := fun he => hb (he ▸ List.mem_map_of_mem ha)
        rw [if_neg hne]
        exact ih hl ha
  intro r
  show lookupVariant (coded code all) (code a) = .ok a
  unfold lookupVariant
  rw [hlookup]

end

/-! ### Records -/

namespace Fields

def names : {αs : List Type} → Fields αs → List String
  | _, nil => []
  | _, cons field rest => field.name :: rest.names

/-- A field finds its value among the members, or may be missing and has this value then. -/
def Finds {α : Type} (field : Field α) (ms : List (String × Json)) (a : α) : Prop :=
  match lookupEntry field.name ms with
  | some v => Reads field.decode v a
  | none => field.absent = some a

/-- Every field finds its value among the members. -/
def Holds (ms : List (String × Json)) : {αs : List Type} → Fields αs → Values αs → Prop
  | _, nil, () => True
  | _, cons field rest, (a, as) => Finds field ms a ∧ rest.Holds ms as

/-- Every field has met its value, and its name does not come again, or still finds it among the
members that follow. -/
def Awaits (ms : List (String × Json)) :
    {αs : List Type} → Fields αs → Slots αs → Values αs → Prop
  | _, nil, (), () => True
  | _, cons field rest, (slot, slots), (a, as) =>
    ((slot = some a ∧ field.name ∉ ms.map (·.1)) ∨ (slot = none ∧ Finds field ms a)) ∧
      rest.Awaits ms slots as

theorem awaits_blank {ms : List (String × Json)} : ∀ {αs : List Type} (fs : Fields αs)
    (values : Values αs), fs.Holds ms values → fs.Awaits ms fs.blank values
  | _, nil, (), _ => trivial
  | _, cons _ rest, (_, as), h => ⟨.inr ⟨rfl, h.1⟩, awaits_blank rest as h.2⟩

/-- At the end every value was met or is that of a missing member. -/
theorem finish_of_awaits : ∀ {αs : List Type} (fs : Fields αs) (slots : Slots αs)
    (values : Values αs), fs.Awaits [] slots values → fs.finish slots = .ok values
  | _, nil, (), (), _ => rfl
  | _, cons field rest, (slot, slots), (a, as), h => by
    obtain ⟨hslot, hrest⟩ := h
    have hvalue : slot.or field.absent = some a := by
      rcases hslot with ⟨rfl, _⟩ | ⟨rfl, h⟩
      · rfl
      · exact h
    unfold finish
    rw [hvalue, finish_of_awaits rest slots as hrest]
    rfl

section

variable {k : String} {v : Json} {ms : List (String × Json)}

@[simp] theorem finds_nil {α : Type} {field : Field α} {a : α} :
    Finds field [] a ↔ field.absent = some a :=
  Iff.rfl

@[simp] theorem finds_cons {α : Type} {field : Field α} {a : α} : Finds field ((k, v) :: ms) a ↔
    if k = field.name then Reads field.decode v a else Finds field ms a := by
  unfold Finds
  rw [lookupEntry]
  split_ifs <;> rfl

theorem finds_of_ne {α : Type} {field : Field α} {a : α} (h : field.name ≠ k) :
    Finds field ((k, v) :: ms) a ↔ Finds field ms a := by
  rw [finds_cons, if_neg (Ne.symm h)]

/-- A member that is no field is passed over. -/
theorem awaits_of_not_mem : ∀ {αs : List Type} (fs : Fields αs) (slots : Slots αs)
    (values : Values αs), k ∉ fs.names → fs.Awaits ((k, v) :: ms) slots values →
    fs.Awaits ms slots values
  | _, nil, (), (), _, _ => trivial
  | _, cons field rest, (slot, slots), (a, as), hk, h => by
    obtain ⟨hslot, hrest⟩ := h
    rw [names, List.mem_cons, not_or] at hk
    refine ⟨?_, awaits_of_not_mem rest slots as hk.2 hrest⟩
    rw [finds_of_ne (Ne.symm hk.1)] at hslot
    refine hslot.imp_left fun ⟨hs, hmem⟩ => ⟨hs, fun h => hmem (List.mem_cons_of_mem _ h)⟩

/-- Taking in a member leaves every field with its value or with the members that follow. -/
theorem visit_of_awaits (r : Reading) (hk : k ∉ ms.map (·.1)) : ∀ {αs : List Type}
    (fs : Fields αs) (slots : Slots αs) (values : Values αs), fs.names.Nodup →
    fs.Awaits ((k, v) :: ms) slots values →
    ∃ slots', fs.visit r k v slots = .ok slots' ∧ fs.Awaits ms slots' values
  | _, nil, (), (), _, _ => ⟨(), rfl, trivial⟩
  | _, cons field rest, (slot, slots), (a, as), hnames, h => by
    obtain ⟨hslot, hrest⟩ := h
    obtain ⟨hname, hnames⟩ := List.nodup_cons.mp hnames
    unfold visit
    by_cases he : field.name = k
    · subst he
      obtain ⟨rfl, hfinds⟩ : slot = none ∧ Finds field ((field.name, v) :: ms) a := by
        rcases hslot with ⟨_, hmem⟩ | h
        · exact absurd List.mem_cons_self hmem
        · exact h
      have hv : Reads field.decode v a := by
        rwa [finds_cons, if_pos rfl] at hfinds
      refine ⟨(some a, slots), ?_, .inl ⟨rfl, hk⟩, awaits_of_not_mem rest slots as hname hrest⟩
      rw [if_pos rfl, hv r]
      rfl
    · obtain ⟨slots', hvisit, hrest'⟩ := visit_of_awaits r hk rest slots as hnames hrest
      refine ⟨(slot, slots'), ?_, ?_, hrest'⟩
      · rw [if_neg he, hvisit]
        rfl
      · rw [finds_of_ne he] at hslot
        exact hslot.imp_left fun ⟨hs, hmem⟩ => ⟨hs, fun h => hmem (List.mem_cons_of_mem _ h)⟩

end

theorem visitAll_of_awaits (r : Reading) {αs : List Type} (fs : Fields αs) (hfs : fs.names.Nodup)
    (values : Values αs) : ∀ (ms : List (String × Json)) (slots : Slots αs),
    (ms.map (·.1)).Nodup → fs.Awaits ms slots values →
    ∃ slots', fs.visitAll r ms slots = .ok slots' ∧ fs.Awaits [] slots' values
  | [], slots, _, h => ⟨slots, rfl, h⟩
  | (k, v) :: ms, slots, hms, h => by
    obtain ⟨hk, hms⟩ := List.nodup_cons.mp hms
    obtain ⟨slots', hvisit, h'⟩ := visit_of_awaits r hk fs slots values hfs h
    obtain ⟨slots'', hall, h''⟩ := visitAll_of_awaits r fs hfs values ms slots' hms h'
    refine ⟨slots'', ?_, h''⟩
    rw [visitAll, hvisit]
    exact hall

end Fields

/-- **A record is read from an object where every field finds its value among the members**, in
whatever order they stand. -/
theorem reads_record {αs : List Type} {name : String} {fs : Fields αs}
    {ms : List (String × Json)} (values : Values αs) (hfs : fs.names.Nodup)
    (hms : (ms.map (·.1)).Nodup) (h : fs.Holds ms values) :
    Reads (record name fs) (.obj ms) values := by
  intro r
  obtain ⟨slots, hall, hslots⟩ := Fields.visitAll_of_awaits r fs hfs values ms fs.blank hms
    (Fields.awaits_blank fs values h)
  show (fs.visitAll r ms fs.blank).bind fs.finish = .ok values
  rw [hall]
  exact Fields.finish_of_awaits fs slots values hslots

/-! ### Tagged values -/

/-- Whatever is read beside the tag is as the predicate says. -/
structure Content.Yields {α : Type} (c : Content α) (p : α → Prop) : Prop where
  decode : ∀ r v a, c.decode r v = .ok a → p a
  absent : ∀ a, c.absent = some a → p a

section

variable {α : Type} {name tag content t : String} {variants : List (String × Content α)}
  {ms : List (String × Json)}

/-- A value with a tag that is not listed is refused. -/
theorem tagged_of_unlisted (htag : lookupEntry tag ms = some (.str t))
    (ht : lookupEntry t variants = none) (r : Reading) :
    tagged name tag content variants r (.obj ms) =
      .error (.unknownVariant t (variants.map (·.1))) := by
  unfold tagged
  simp only [htag, variant, lookupVariant, ht]
  rfl

/-- A value with a listed tag is what is read beside it. -/
theorem tagged_of_listed {c : Content α} (htag : lookupEntry tag ms = some (.str t))
    (ht : lookupEntry t variants = some c) (r : Reading) :
    tagged name tag content variants r (.obj ms) = match lookupEntry content ms, c.absent with
      | some v, _ => c.decode (if content < tag then .buffered else r) v
      | none, some a => .ok a
      | none, none => .error (.missingField content) := by
  unfold tagged
  simp only [htag, variant, lookupVariant, ht]
  rfl

theorem reads_tagged {c : Content α} {v : Json} {a : α}
    (htag : lookupEntry tag ms = some (.str t)) (hcontent : lookupEntry content ms = some v)
    (ht : lookupEntry t variants = some c) (h : Reads c.decode v a) :
    Reads (tagged name tag content variants) (.obj ms) a := by
  intro r
  rw [tagged_of_listed htag ht, hcontent]
  exact h _

/-- What is decoded is of the kind that its tag stands for. -/
theorem yields_of_tagged {p : String → α → Prop} (hp : ∀ e ∈ variants, e.2.Yields (p e.1))
    (htag : lookupEntry tag ms = some (.str t)) {r : Reading} {a : α}
    (h : tagged name tag content variants r (.obj ms) = .ok a) : p t a := by
  cases ht : lookupEntry t variants with
  | none =>
    rw [tagged_of_unlisted htag ht] at h
    cases h
  | some c =>
    have hc : c.Yields (p t) := hp _ (mem_of_lookupEntry ht)
    rw [tagged_of_listed htag ht] at h
    split at h
    · exact hc.decode _ _ _ h
    · next ha =>
      cases h
      exact hc.absent _ ha
    · cases h

end

end Json
end StorageSetup
