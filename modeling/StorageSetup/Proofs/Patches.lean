import StorageSetup.Proofs.NodeTaints
import StorageSetup.Proofs.Timestamps
/-!
# What a merge patch leaves

A merge patch that removes nothing and names no member twice can be merged in again without a
change, whatever it meets. A patch with labels gives an object these labels and keeps its others; a
patch with taints gives a node these taints. Neither changes another part of the object, and a
node with taints that were read and are written again is read with the same taints.

Key definitions: `Json.Repeatable`, `Json.Labelled`, `Json.Tainted`.
Key theorems: `insertEntry_comm`, `Json.repeatable_obj`, `Json.labelled_mergePatch`,
`NodeTaint.decode_toJson`, `Json.tainted_mergePatch`.
-/

namespace StorageSetup

/-! ### Two writes of entries -/

section

variable {α : Type} {j k : String}

/-- Of two writes of one key the later stays, also where the keys do not increase. -/
theorem insertEntry_insertEntry (k : String) (v w : α) : ∀ l : List (String × α),
    insertEntry k w (insertEntry k v l) = insertEntry k w l
  | [] => by simp [insertEntry]
  | e :: l => by
    have ih := insertEntry_insertEntry k v w l
    by_cases hlt : k < e.1
    · simp [insertEntry, hlt]
    · by_cases he : k = e.1
      · simp [insertEntry, he]
      · simp [insertEntry, hlt, he, ih]

theorem insertEntry_comm_of_lt (h : j < k) (v w : α) : ∀ l : List (String × α),
    insertEntry j v (insertEntry k w l) = insertEntry k w (insertEntry j v l)
  | [] => by
    have hkj : ¬ k < j := String.lt_asymm h
    have hne : k ≠ j := fun he => String.lt_irrefl j (he ▸ h)
    simp only [insertEntry, if_pos h, if_neg hkj, if_neg hne]
  | e :: l => by
    have ih := insertEntry_comm_of_lt h v w l
    have hkj : ¬ k < j := String.lt_asymm h
    have hne : k ≠ j := fun he => String.lt_irrefl j (he ▸ h)
    -- where the greater key goes before the entry or takes its place, the smaller goes before it
    by_cases hk : k < e.1
    · have hj : j < e.1 := String.lt_trans h hk
      simp only [insertEntry, if_pos hk, if_pos hj, if_pos h, if_neg hkj, if_neg hne]
    · by_cases hke : k = e.1
      · have hj : j < e.1 := hke ▸ h
        simp only [insertEntry, if_neg hk, if_pos hke, if_pos hj, if_pos h, if_neg hkj, if_neg hne]
      · by_cases hj : j < e.1
        · simp only [insertEntry, if_neg hk, if_neg hke, if_pos hj, if_neg hkj, if_neg hne]
        · by_cases hje : j = e.1
          · simp only [insertEntry, if_neg hk, if_neg hke, if_neg hj, if_pos hje, if_neg hkj,
              if_neg hne]
          · simp only [insertEntry, if_neg hk, if_neg hke, if_neg hj, if_neg hje, ih]

/-- Writes of different keys can change places, also where the keys do not increase. -/
theorem insertEntry_comm (h : j ≠ k) (v w : α) (l : List (String × α)) :
    insertEntry j v (insertEntry k w l) = insertEntry k w (insertEntry j v l) := by
  rcases Std.lt_trichotomy j k with hlt | he | hlt
  · exact insertEntry_comm_of_lt hlt v w l
  · exact absurd he h
  · exact (insertEntry_comm_of_lt hlt w v l).symm

end

namespace Json

/-! ### A patch merged in twice -/

/-- Merging in the patch once more changes nothing. -/
def Repeatable (patch : Json) : Prop :=
  ∀ o : Json, (o.mergePatch patch).mergePatch patch = o.mergePatch patch

theorem repeatable_str (s : String) : Repeatable (.str s) :=
  fun _ => rfl

theorem repeatable_arr (items : List Json) : Repeatable (.arr items) :=
  fun _ => rfl

section

variable {changes t : List (String × Json)}

/-- A write of another member can be made before the changes. -/
theorem insertEntry_mergeMembers {k : String} {v : Json} : ∀ {changes t : List (String × Json)},
    k ∉ changes.map (·.1) → (∀ e ∈ changes, e.2 ≠ .null) →
    insertEntry k v (mergeMembers t changes) = mergeMembers (insertEntry k v t) changes
  | [], _, _, _ => rfl
  | (j, c) :: rest, t, hk, hnull => by
    rw [List.map_cons, List.mem_cons, not_or] at hk
    have hc : c ≠ .null := hnull _ List.mem_cons_self
    have hlookup : lookupEntry j (insertEntry k v t) = lookupEntry j t := by
      rw [lookupEntry_insertEntry, if_neg hk.1]
    rw [mergeMembers_cons hc, mergeMembers_cons hc, hlookup, insertEntry_comm (Ne.symm hk.1)]
    exact insertEntry_mergeMembers hk.2 fun e he => hnull e (List.mem_cons_of_mem _ he)

/-- Behind the changes each changed member stands where a write of it would put it. -/
theorem insertEntry_mergeMembers_self : ∀ {changes t : List (String × Json)},
    (changes.map (·.1)).Nodup → (∀ e ∈ changes, e.2 ≠ .null) → ∀ e ∈ changes,
    insertEntry e.1 (mergePatch ((lookupEntry e.1 t).getD null) e.2) (mergeMembers t changes) =
      mergeMembers t changes
  | [], _, _, _, _, he => absurd he List.not_mem_nil
  | (j, c) :: rest, t, hnames, hnull, e, he => by
    rw [List.map_cons, List.nodup_cons] at hnames
    have hrest : ∀ e ∈ rest, e.2 ≠ .null := fun e he => hnull e (List.mem_cons_of_mem _ he)
    rw [mergeMembers_cons (hnull _ List.mem_cons_self)]
    rcases List.mem_cons.mp he with rfl | he
    · rw [insertEntry_mergeMembers hnames.1 hrest, insertEntry_insertEntry]
    · have hne : j ≠ e.1 := fun h => hnames.1 (List.mem_map.mpr ⟨e, he, h.symm⟩)
      have ih := insertEntry_mergeMembers_self hnames.2 hrest e he
        (t := insertEntry j (mergePatch ((lookupEntry j t).getD null) c) t)
      rwa [lookupEntry_insertEntry, if_neg hne] at ih

/-- Changes that are all made already change nothing. -/
theorem mergeMembers_eq_self : ∀ {changes : List (String × Json)},
    (∀ e ∈ changes, e.2 ≠ .null) →
    (∀ e ∈ changes, insertEntry e.1 (mergePatch ((lookupEntry e.1 t).getD null) e.2) t = t) →
    mergeMembers t changes = t
  | [], _, _ => rfl
  | e :: rest, hnull, h => by
    rw [mergeMembers_cons (hnull e List.mem_cons_self), h e List.mem_cons_self]
    exact mergeMembers_eq_self (fun e he => hnull e (List.mem_cons_of_mem _ he))
      fun e he => h e (List.mem_cons_of_mem _ he)

/-- **A patch can be merged in again** if it names no member twice, removes none, and each of its
changes can be made again. -/
theorem repeatable_obj (hnames : (changes.map (·.1)).Nodup) (hnull : ∀ e ∈ changes, e.2 ≠ .null)
    (h : ∀ e ∈ changes, Repeatable e.2) : Repeatable (.obj changes) := by
  intro o
  refine congrArg obj (mergeMembers_eq_self hnull fun e he => ?_)
  have hmerged : lookupEntry e.1 (mergeMembers o.members changes) =
      some (mergePatch ((lookupEntry e.1 o.members).getD null) e.2) := by
    rw [lookupEntry_mergeMembers hnames hnull, lookupEntry_of_mem hnames he]
  show insertEntry e.1 (mergePatch ((lookupEntry e.1 (mergeMembers o.members changes)).getD null)
    e.2) (mergeMembers o.members changes) = mergeMembers o.members changes
  rw [hmerged, Option.getD_some, h e he]
  exact insertEntry_mergeMembers_self hnames hnull e he

end

/-! ### A patch of one member of a part -/

/-- The patch that changes one member of a part of an object. -/
def change (part name : String) (value : Json) : Json :=
  .obj [(part, .obj [(name, value)])]

section

variable {part name : String} {value : Json}

theorem repeatable_change (hvalue : value ≠ .null) (h : Repeatable value) :
    Repeatable (change part name value) := by
  refine repeatable_obj (by simp) (by simp) fun e he => ?_
  obtain rfl := List.mem_singleton.mp he
  exact repeatable_obj (by simp) (by simpa using hvalue) (by simpa using h)

theorem member?_change (o : Json) {other : String} (hother : other ≠ part) :
    (o.mergePatch (change part name value)).member? other = o.member? other := by
  unfold change
  rw [member?_mergePatch (by simp) (by simp), lookupEntry, if_neg (Ne.symm hother)]
  rfl

theorem part_change (o : Json) : (o.mergePatch (change part name value)).member? part =
    some (((o.member? part).getD null).mergePatch (.obj [(name, value)])) := by
  unfold change
  rw [member?_mergePatch (by simp) (by simp), lookupEntry, if_pos rfl]

theorem at?_change_of_ne (o : Json) (hvalue : value ≠ .null) {other : String}
    (hother : other ≠ name) :
    (o.mergePatch (change part name value)).at? [part, other] = o.at? [part, other] := by
  rw [at?_pair, at?_pair, part_change, Option.bind_some,
    member?_mergePatch (by simp) (by simpa using hvalue), lookupEntry, if_neg (Ne.symm hother)]
  cases o.member? part <;> rfl

theorem at?_change (o : Json) (hvalue : value ≠ .null) :
    (o.mergePatch (change part name value)).at? [part, name] =
      some (((o.at? [part, name]).getD null).mergePatch value) := by
  rw [at?_pair, at?_pair, part_change, Option.bind_some,
    member?_mergePatch (by simp) (by simpa using hvalue), lookupEntry, if_pos rfl]
  cases o.member? part <;> rfl

end

/-! ### Labels -/

/-- The label of an object under a key. -/
def label? (o : Json) (key : String) : Option Json :=
  (o.at? ["metadata", "labels"]).bind (member? key)

/-- The object with labels merged in: another label of it stays, and all else. -/
structure Labelled (labels : Dict String) (o new : Json) : Prop where
  label? : ∀ key, new.label? key = ((labels.get? key).map .str).or (o.label? key)
  metadata : ∀ name, name ≠ "labels" → new.at? ["metadata", name] = o.at? ["metadata", name]
  others : ∀ name, name ≠ "metadata" → new.member? name = o.member? name

section

variable (d : Dict String)

theorem keys_texts_nodup : ((d.entries.map fun e => (e.1, Json.str e.2)).map (·.1)).Nodup := by
  rw [List.map_map]
  refine List.pairwise_map.mpr (d.increasing.imp fun {a b} hlt he => ?_)
  have hkeys : a.1 = b.1 := he
  rw [hkeys] at hlt
  exact String.lt_irrefl b.1 hlt

theorem ne_null_of_mem_texts : ∀ e ∈ d.entries.map fun e => (e.1, Json.str e.2), e.2 ≠ .null := by
  intro e he
  obtain ⟨e, _, rfl⟩ := List.mem_map.mp he
  exact nofun

/-- Texts merged into nothing are the texts. -/
theorem null_mergePatch_texts : null.mergePatch (.texts d) = .texts d := by
  have hmerge : ∀ (l : List (String × String)) (t : List (String × Json)),
      mergeMembers t (l.map fun e => (e.1, .str e.2)) =
        (l.map fun e => (e.1, Json.str e.2)).foldl (fun t e => insertEntry e.1 e.2 t) t := by
    intro l
    induction l with
    | nil => exact fun _ => rfl
    | cons e l ih => exact fun t => ih (insertEntry e.1 (.str e.2) t)
  have hincreasing : Increasing (d.entries.map fun e => (e.1, Json.str e.2)) :=
    List.pairwise_map.mpr d.increasing
  exact congrArg obj ((hmerge d.entries []).trans
    (foldl_insertEntry_of_increasing _ [] hincreasing))

theorem repeatable_texts : Repeatable (.texts d) := by
  refine repeatable_obj (keys_texts_nodup d) (ne_null_of_mem_texts d) fun e he => ?_
  obtain ⟨e, _, rfl⟩ := List.mem_map.mp he
  exact repeatable_str e.2

/-- Texts that are merged in take the place of the members of their names. -/
theorem member?_mergePatch_texts (v : Json) (key : String) :
    (v.mergePatch (.texts d)).member? key = ((d.get? key).map .str).or (v.member? key) := by
  show (v.mergePatch (.obj _)).member? key = _
  rw [member?_mergePatch (keys_texts_nodup d) (ne_null_of_mem_texts d), lookupEntry_map]
  unfold Dict.get?
  cases lookupEntry key d.entries <;> rfl

theorem texts_ne_null : Json.texts d ≠ .null :=
  nofun

end

theorem repeatable_labelPatch (labels : Dict String) :
    Repeatable (Connection.labelPatch labels) :=
  repeatable_change (texts_ne_null labels) (repeatable_texts labels)

/-- **A patch with labels merges them into the object.** -/
theorem labelled_mergePatch (o : Json) (labels : Dict String) :
    Labelled labels o (o.mergePatch (Connection.labelPatch labels)) where
  label? key := by
    have hlabels : (o.mergePatch (Connection.labelPatch labels)).at? ["metadata", "labels"] =
        some (((o.at? ["metadata", "labels"]).getD null).mergePatch (.texts labels)) :=
      at?_change o (texts_ne_null labels)
    unfold Json.label?
    rw [hlabels, Option.bind_some, member?_mergePatch_texts]
    cases o.at? ["metadata", "labels"] <;> rfl
  metadata _ h := at?_change_of_ne o (texts_ne_null labels) h
  others _ h := member?_change o h

/-- An object whose kind, name and namespace stay does not leave its place. -/
theorem isAt_eq_of_same {o new : Json} (hkind : new.member? "kind" = o.member? "kind")
    (hmetadata : ∀ name ∈ ["name", "namespace"],
      new.at? ["metadata", name] = o.at? ["metadata", name]) (t : Target) :
    Server.isAt t new = Server.isAt t o := by
  unfold Server.isAt Server.nameOf
  rw [hkind, hmetadata "name" (by simp), hmetadata "namespace" (by simp)]

theorem Labelled.isAt {labels : Dict String} {o new : Json} (h : o.Labelled labels new)
    (t : Target) : Server.isAt t new = Server.isAt t o := by
  have hmetadata : ∀ name ∈ ["name", "namespace"],
      new.at? ["metadata", name] = o.at? ["metadata", name] := by
    intro name hname
    refine h.metadata name ?_
    rintro rfl
    exact absurd hname (by decide)
  exact isAt_eq_of_same (h.others _ (by decide)) hmetadata t

/-- An object in which nothing but its specification changes does not leave its place. -/
theorem isAt_eq_of_others {o new : Json}
    (h : ∀ name, name ≠ "spec" → new.member? name = o.member? name) (t : Target) :
    Server.isAt t new = Server.isAt t o := by
  refine isAt_eq_of_same (h _ (by decide)) (fun name _ => ?_) t
  rw [at?_pair, at?_pair, h _ (by decide)]

theorem repeatable_taintsPatch (taints : List NodeTaint) : Repeatable (taintsPatch none taints) :=
  repeatable_change nofun (repeatable_arr _)

/-- A node stays where it is when its taints are written. -/
theorem isAt_taintsPatch (o : Json) (taints : List NodeTaint) (t : Target) :
    Server.isAt t (o.mergePatch (taintsPatch none taints)) = Server.isAt t o :=
  isAt_eq_of_others (fun _ hname => member?_change o hname) t

end Json

/-! ### Taints that are written and read again -/

/-- A member that is kept and has no form of its own where it is missing stands there. -/
theorem Known.exists_of_kept {k : Known} {r : Json.Reading} {ms : List (String × Json)} {w : Json}
    (habsent : k.absent = none) (h : k.kept r ms = .ok (some w)) :
    ∃ v, lookupEntry k.name ms = some v ∧ k.keep r v = .ok w := by
  unfold kept at h
  rw [habsent] at h
  cases hv : lookupEntry k.name ms with
  | none =>
    rw [hv] at h
    cases h
  | some v =>
    rw [hv] at h
    obtain ⟨here, hhere, h⟩ := map_eq_ok_iff.mp h
    rw [Option.or_none] at h
    unfold Json.optional at hhere
    split at hhere
    · cases hhere
      cases h
    · obtain ⟨w', hw', rfl⟩ := map_eq_ok_iff.mp hhere
      cases h
      exact ⟨v, rfl, hw'⟩

namespace NodeTaint

/-- The time of a taint is in the form in which it is written. -/
def Timely (t : NodeTaint) : Prop :=
  ∀ time, t.timeAdded = some time → Time.normalTimestamp? time = some time

theorem timely_ofTaint (t : Taint) : (ofTaint t).Timely := by
  intro time h
  cases h

/-- A time that is kept is in the form in which it is written. -/
theorem normalTimestamp?_of_keepTime (r : Json.Reading) {v : Json} {time : String}
    (h : Json.keepTime r v = .ok (.str time)) : Time.normalTimestamp? time = some time := by
  cases v with
  | str s =>
    simp only [Json.keepTime] at h
    split at h
    · next t ht =>
      cases h
      exact Time.normalTimestamp?_of_eq_some ht
    · cases h
  | _ => cases h

theorem timely_of_decode {r : Json.Reading} {v : Json} {t : NodeTaint}
    (h : decode r v = .ok t) : t.Timely := by
  unfold decode at h
  obtain ⟨w, hw, h⟩ := bind_eq_ok_iff.mp h
  cases v with
  | obj ms =>
    obtain ⟨kept, hkept, rfl⟩ := map_eq_ok_iff.mp hw
    cases h
    intro time htime
    have htext : lookupEntry "timeAdded" kept = some (.str time) := by
      obtain ⟨w, hw, hs⟩ := Option.bind_eq_some_iff.mp htime
      cases w with
      | str s => exact hw.trans (congrArg (some <| Json.str ·) (Option.some.inj hs))
      | _ => cases hs
    have hmember := Json.kept_of_keepKnown (by decide) hkept
      (Json.maybe "timeAdded" Json.keepTime) (by simp)
    obtain ⟨_, _, hv⟩ := Known.exists_of_kept rfl (hmember.trans (congrArg _ htext))
    exact normalTimestamp?_of_keepTime r hv
  | _ => cases hw

/-- **A taint that was read is read again from its written form.** -/
theorem decode_toJson (r : Json.Reading) {t : NodeTaint} (h : t.Timely) :
    decode r t.toJson = .ok t := by
  obtain ⟨key, effect, value, timeAdded⟩ := t
  cases timeAdded with
  | none => cases value <;> rfl
  | some time =>
    have htime : Json.keepTime r (.str time) = .ok (.str time) := by
      simp only [Json.keepTime, h time rfl]
    unfold decode toJson
    cases value <;>
      simp [Json.known, Json.keepKnown, lookupEntry, Json.always, Json.maybe, Json.optional, htime,
        Json.keepText, Json.text, bind, Except.bind, Except.map, Json.member?, Json.string?]

theorem reads_toJson {taints : List NodeTaint} (h : ∀ t ∈ taints, t.Timely) :
    Json.Reads (Json.list decode) (.arr (taints.map toJson)) taints :=
  Json.reads_list taints fun t ht r => decode_toJson r (h t ht)

end NodeTaint

namespace NodeObject

theorem timely_of_decode {r : Json.Reading} {o : Json} {node : NodeObject}
    (h : decode r o = .ok node) : ∀ t ∈ node.taints, t.Timely := by
  obtain ⟨-, -, _, spec, _, _, taints, _, -, -, -, -, htaints, -, rfl⟩ := decode_eq_ok_iff.mp h
  rcases eq_of_part htaints with ⟨-, rfl⟩ | ⟨w, -, hlist⟩
  · exact List.forall_mem_nil _
  · cases w with
    | arr items => exact Json.forall_of_decodeAll NodeTaint.timely_of_decode hlist
    | _ => cases hlist

/-- **A node is read with the taints that were written.** -/
theorem decode_mergePatch {r : Json.Reading} {o : Json} {node : NodeObject}
    {taints : List NodeTaint} (h : decode r o = .ok node) (ht : ∀ t ∈ taints, t.Timely) :
    decode r (o.mergePatch (Json.taintsPatch none taints)) = .ok { node with taints } := by
  let new := o.mergePatch (Json.taintsPatch none taints)
  have hmember (name : String) (hname : name ≠ "spec") : new.member? name = o.member? name :=
    Json.member?_change o hname
  have hpart {α : Type} (name : String) (hname : name ≠ "spec") (d : Json.Decoder α) (absent : α) :
      part name d absent new = part name d absent o := by
    unfold part
    rw [hmember name hname]
  obtain ⟨-, hkind, metadata, spec, status, labels, _, capacity, hmetadata, hspec, hstatus, hlabels,
    -, hcapacity, rfl⟩ := decode_eq_ok_iff.mp h
  have hkind' : Json.checkKind "v1" "Node" new = .ok () := by
    unfold Json.checkKind at hkind ⊢
    dsimp only at hkind ⊢
    rwa [hmember "apiVersion" (by decide), hmember "kind" (by decide)]
  let written := ((o.member? "spec").getD .null).mergePatch
    (.obj [("taints", .arr (taints.map NodeTaint.toJson))])
  have hwritten : new.member? "spec" = some written := Json.part_change o
  refine decode_eq_ok_iff.mpr ⟨rfl, hkind', metadata, written, status, labels, taints, capacity,
    (hpart "metadata" (by decide) _ _).trans hmetadata, ?_,
    (hpart "status" (by decide) _ _).trans hstatus, hlabels, ?_, hcapacity, rfl⟩
  · unfold part
    rw [hwritten]
    rfl
  · have htaints : written.member? "taints" = some (.arr (taints.map NodeTaint.toJson)) :=
      Json.member?_mergePatch (by simp) (by simp)
    unfold part
    rw [htaints]
    exact NodeTaint.reads_toJson ht .direct

end NodeObject

/-- The node with the taint where it did not carry it: its other taints stay in their order, and
all else. -/
structure Json.Tainted (taint : Taint) (o new : Json) : Prop where
  taints : ∃ node, NodeObject.decode .direct o = .ok node ∧ NodeObject.decode .direct new = .ok
    { node with taints := node.taints ++ if Carries o.taints taint then [] else [.ofTaint taint] }
  length_iff : new.taints.length = o.taints.length + 1 ↔ ¬ Carries o.taints taint
  spec : ∀ name, name ≠ "taints" → new.at? ["spec", name] = o.at? ["spec", name]
  others : ∀ name, name ≠ "spec" → new.member? name = o.member? name

theorem Json.Tainted.exists_decode {taint : Taint} {o new : Json} (h : o.Tainted taint new) :
    ∃ node, NodeObject.decode .direct new = .ok node ∧ Carries new.taints taint := by
  obtain ⟨node, ho, hnew⟩ := h.taints
  refine ⟨_, hnew, ?_⟩
  rw [← NodeObject.taints_of_decode hnew]
  simp only [List.map_append, NodeObject.taints_of_decode ho]
  by_cases hcarries : Carries o.taints taint
  · exact carries_append.mpr (.inl hcarries)
  · rw [if_neg hcarries]
    refine carries_append.mpr (.inr ⟨_, List.mem_singleton_self _, ?_⟩)
    rw [NodeTaint.toTaint_ofTaint]
    exact ⟨rfl, rfl⟩

theorem Json.Tainted.isAt {taint : Taint} {o new : Json} (h : o.Tainted taint new) (t : Target) :
    Server.isAt t new = Server.isAt t o :=
  isAt_eq_of_others h.others t

namespace NodeObject

variable {o : Json} {node : NodeObject} {taint : Taint}

theorem tainted_self (h : decode .direct o = .ok node) (hcarries : Carries o.taints taint) :
    o.Tainted taint o where
  taints := ⟨node, h, by rw [if_pos hcarries, List.append_nil]; exact h⟩
  length_iff := iff_of_false (Nat.ne_of_lt (Nat.lt_succ_self _)) (not_not_intro hcarries)
  spec _ _ := rfl
  others _ _ := rfl

/-- **A node that does not carry the taint carries it behind its others when they are written.** -/
theorem tainted_mergePatch (h : decode .direct o = .ok node) (hcarries : ¬ Carries o.taints taint) :
    o.Tainted taint (o.mergePatch (Json.taintsPatch none (node.taints ++ [.ofTaint taint]))) := by
  let written : List NodeTaint := node.taints ++ [.ofTaint taint]
  have htimely : ∀ t ∈ written, t.Timely := by
    intro t ht
    rcases List.mem_append.mp ht with ht | ht
    · exact timely_of_decode h t ht
    · exact List.mem_singleton.mp ht ▸ NodeTaint.timely_ofTaint taint
  have hvalue : Json.arr (written.map NodeTaint.toJson) ≠ .null := nofun
  have hnew := decode_mergePatch h htimely
  have hlength : (o.mergePatch (Json.taintsPatch none written)).taints.length =
      o.taints.length + 1 := by
    rw [← taints_of_decode h, ← taints_of_decode hnew, List.length_map, List.length_map,
      List.length_append, List.length_singleton]
  exact {
    taints := ⟨node, h, by rwa [if_neg hcarries]⟩
    length_iff := iff_of_true hlength hcarries
    spec := fun name hname => Json.at?_change_of_ne o hvalue hname
    others := fun name hname => Json.member?_change o hname }

end NodeObject

end StorageSetup
