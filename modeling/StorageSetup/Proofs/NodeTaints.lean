import Mathlib.Data.List.Basic
import StorageSetup.Cluster.Client
import StorageSetup.Proofs.Codec
import StorageSetup.Proofs.Gate
/-!
# The taints that a node carries

A node that can be read carries the taints of its object, each with the key, the value and the effect
that stand there. A patch with taints replaces them all, gives the node the version it comes with and
leaves it where it is.

Key definitions: `Json.taints`, `Taint.Same`, `Carries`, `Json.version?`, `Json.taintsPatch`,
`Json.rewritten`.
Key theorems: `Json.kept_of_keepKnown`, `NodeObject.taints_of_decode`, `Json.member?_mergePatch`,
`Json.taints_rewritten`, `Json.isAt_rewritten`.
-/

namespace StorageSetup

/-! ### Taints of an object -/

/-- The taint that a value stands for. -/
def Json.taint (v : Json) : Taint :=
  ⟨textAt ["key"] v, textAt ["value"] v, textAt ["effect"] v⟩

/-- The taints of a node object. -/
def Json.taints (o : Json) : List Taint :=
  (((o.at? ["spec", "taints"]).bind Json.items?).getD []).map Json.taint

/-- The same mark on a node, whatever the values. -/
def Taint.Same (t u : Taint) : Prop :=
  t.key = u.key ∧ t.effect = u.effect

/-- The mark of the taint is among the taints. -/
def Carries (taints : List Taint) (t : Taint) : Prop :=
  ∃ u ∈ taints, u.Same t

instance (t u : Taint) : Decidable (t.Same u) :=
  inferInstanceAs (Decidable (_ ∧ _))

instance (taints : List Taint) (t : Taint) : Decidable (Carries taints t) :=
  inferInstanceAs (Decidable (∃ u ∈ taints, u.Same t))

theorem carries_append {l m : List Taint} {t : Taint} :
    Carries (l ++ m) t ↔ Carries l t ∨ Carries m t := by
  simp [Carries, or_and_right, exists_or]

/-! ### Reading a node -/

/-- The member of an object in the form in which it is kept. -/
def Known.kept (k : Known) (r : Json.Reading) (ms : List (String × Json)) :
    Except Json.DecodeError (Option Json) :=
  match lookupEntry k.name ms with
  | none => .ok k.absent
  | some v => (Json.optional k.keep r v).map (·.or k.absent)

namespace Json

theorem at?_pair (o : Json) (a b : String) : o.at? [a, b] = (o.member? a).bind (member? b) := by
  refine congrArg _ (funext fun v => ?_)
  exact Option.bind_fun_some _

section

variable {r : Reading} {ms kept : List (String × Json)} {k : Known} {ks : List Known}

theorem keepKnown_cons (k : Known) (ks : List Known) : keepKnown r ms (k :: ks) =
    (k.kept r ms >>= fun here => keepKnown r ms ks >>= fun others =>
      .ok ((here.map fun v => (k.name, v)).toList ++ others)) := by
  rw [keepKnown, Known.kept]
  cases lookupEntry k.name ms <;> rfl

theorem keepKnown_cons_eq_ok_iff : keepKnown r ms (k :: ks) = .ok kept ↔ ∃ here others,
    k.kept r ms = .ok here ∧ keepKnown r ms ks = .ok others ∧
      (here.map fun v => (k.name, v)).toList ++ others = kept := by
  rw [keepKnown_cons]
  simp only [bind_eq_ok_iff, Except.ok.injEq, exists_and_left]

theorem lookupEntry_append_kept (here : Option Json) (name key : String)
    (others : List (String × Json)) :
    lookupEntry key ((here.map fun v => (name, v)).toList ++ others) =
      if name = key then here.or (lookupEntry key others) else lookupEntry key others := by
  cases here with
  | none => simp
  | some v => simp [lookupEntry]

theorem lookupEntry_keepKnown_eq_none {name : String} : ∀ {ks : List Known}
    {kept : List (String × Json)}, name ∉ ks.map (·.name) → keepKnown r ms ks = .ok kept →
    lookupEntry name kept = none
  | [], _, _, h => by
    cases h
    rfl
  | k :: ks, kept, hname, h => by
    obtain ⟨here, others, _, hothers, rfl⟩ := keepKnown_cons_eq_ok_iff.mp h
    rw [List.map_cons, List.mem_cons, not_or] at hname
    rw [lookupEntry_append_kept, if_neg (Ne.symm hname.1)]
    exact lookupEntry_keepKnown_eq_none hname.2 hothers

/-- An object that is read in its known members holds each as it is kept. -/
theorem kept_of_keepKnown : ∀ {ks : List Known} {kept : List (String × Json)},
    (ks.map (·.name)).Nodup → keepKnown r ms ks = .ok kept →
    ∀ k ∈ ks, k.kept r ms = .ok (lookupEntry k.name kept)
  | [], _, _, _, _, hk => absurd hk List.not_mem_nil
  | j :: ks, kept, hnames, h, k, hk => by
    obtain ⟨here, others, hhere, hothers, rfl⟩ := keepKnown_cons_eq_ok_iff.mp h
    rw [List.map_cons, List.nodup_cons] at hnames
    rw [lookupEntry_append_kept]
    rcases List.mem_cons.mp hk with rfl | hk
    · rw [if_pos rfl, lookupEntry_keepKnown_eq_none hnames.1 hothers, Option.or_none, hhere]
    · have hne : j.name ≠ k.name := fun he => hnames.1 (he ▸ List.mem_map_of_mem hk)
      rw [if_neg hne]
      exact kept_of_keepKnown hnames.2 hothers k hk

/-- A text that is kept reads as the text of the object. -/
theorem text_of_kept {here : Option Json} (hkeep : k.keep = keepText)
    (habsent : k.absent = none ∨ k.absent = some (.str "")) (h : k.kept r ms = .ok here) :
    (here.bind string?).getD "" = textAt [k.name] (.obj ms) := by
  have hempty : ((k.absent).bind string?).getD "" = "" := by
    rcases habsent with ha | ha <;> rw [ha] <;> rfl
  unfold Known.kept at h
  show _ = (((lookupEntry k.name ms).bind some).bind string?).getD ""
  rw [Option.bind_fun_some]
  cases hv : lookupEntry k.name ms with
  | none =>
    rw [hv] at h
    cases h
    exact hempty
  | some v =>
    rw [hv, hkeep] at h
    cases v with
    | null =>
      cases h
      exact hempty
    | str s =>
      cases h
      rfl
    | _ => cases h

end

end Json

/-- A taint that is read is the one that stands there. -/
theorem NodeTaint.toTaint_of_decode {r : Json.Reading} {v : Json} {t : NodeTaint}
    (h : NodeTaint.decode r v = .ok t) : t.toTaint = v.taint := by
  unfold NodeTaint.decode at h
  obtain ⟨w, hw, h⟩ := bind_eq_ok_iff.mp h
  cases v with
  | obj ms =>
    obtain ⟨kept, hkept, rfl⟩ := map_eq_ok_iff.mp hw
    cases h
    have hmembers := Json.kept_of_keepKnown (by decide) hkept
    have hkey := Json.text_of_kept rfl (.inr rfl) (hmembers (Json.always "key") (by simp))
    have heffect := Json.text_of_kept rfl (.inr rfl) (hmembers (Json.always "effect") (by simp))
    have hvalue := Json.text_of_kept rfl (.inl rfl)
      (hmembers (Json.maybe "value" Json.keepText) (by simp))
    exact congr (congrArg₂ Taint.mk hkey hvalue) heffect
  | _ => cases hw

theorem Json.map_of_decodeAll {α β : Type} {d : Decoder α} {r : Reading} {f : α → β} {g : Json → β}
    (hd : ∀ {v a}, d r v = .ok a → f a = g v) : ∀ {items : List Json} {l : List α},
    decodeAll d r items = .ok l → l.map f = items.map g
  | [], _, h => by
    cases h
    rfl
  | v :: items, l, h => by
    obtain ⟨a, ha, h⟩ := bind_eq_ok_iff.mp h
    obtain ⟨rest, hrest, h⟩ := bind_eq_ok_iff.mp h
    cases h
    rw [List.map_cons, List.map_cons, hd ha, map_of_decodeAll hd hrest]

theorem Json.forall_of_decodeAll {α : Type} {d : Decoder α} {r : Reading} {p : α → Prop}
    (hd : ∀ {v a}, d r v = .ok a → p a) : ∀ {items : List Json} {l : List α},
    decodeAll d r items = .ok l → ∀ a ∈ l, p a
  | [], _, h => by
    cases h
    exact List.forall_mem_nil p
  | v :: items, l, h => by
    obtain ⟨a, ha, h⟩ := bind_eq_ok_iff.mp h
    obtain ⟨rest, hrest, h⟩ := bind_eq_ok_iff.mp h
    cases h
    exact List.forall_mem_cons.mpr ⟨hd ha, forall_of_decodeAll hd hrest⟩

namespace NodeObject

theorem eq_of_part {α : Type} {name : String} {d : Json.Decoder α} {absent a : α} {v : Json}
    (h : part name d absent v = .ok a) :
    ((v.member? name = none ∨ v.member? name = some .null) ∧ a = absent) ∨
      ∃ w, v.member? name = some w ∧ d .direct w = .ok a := by
  unfold part at h
  split at h
  · next hv => exact .inl ⟨.inl hv, (Except.ok.inj h).symm⟩
  · next hv => exact .inl ⟨.inr hv, (Except.ok.inj h).symm⟩
  · next w _ hv => exact .inr ⟨w, hv, h⟩

theorem eq_of_section {expected : String} {r : Json.Reading} {v w : Json}
    (h : section? expected r v = .ok w) : w = v := by
  unfold section? at h
  split at h
  · exact (Except.ok.inj h).symm
  · cases h

/-- A node is read where each of its parts is. -/
theorem decode_eq_ok_iff {r : Json.Reading} {o : Json} {node : NodeObject} :
    decode r o = .ok node ↔ section? "Node" r o = .ok o ∧
      Json.checkKind "v1" "Node" o = .ok () ∧ ∃ metadata spec status labels taints capacity,
        part "metadata" Json.objectMeta (.obj []) o = .ok metadata ∧
        part "spec" (section? "NodeSpec") (.obj []) o = .ok spec ∧
        part "status" (section? "NodeStatus") (.obj []) o = .ok status ∧
        part "labels" (Json.dict Json.text) ∅ metadata = .ok labels ∧
        part "taints" (Json.list NodeTaint.decode) [] spec = .ok taints ∧
        part "capacity" (Json.dict Json.text) ∅ status = .ok capacity ∧
        { name := ((metadata.member? "name").bind Json.string?).getD "",
          uid := ((metadata.member? "uid").bind Json.string?).getD "",
          labels, taints, capacity } = node := by
  unfold decode
  constructor
  · intro h
    obtain ⟨v, hv, h⟩ := bind_eq_ok_iff.mp h
    rw [eq_of_section hv] at h hv
    obtain ⟨_, hkind, h⟩ := bind_eq_ok_iff.mp h
    obtain ⟨metadata, hmetadata, h⟩ := bind_eq_ok_iff.mp h
    obtain ⟨spec, hspec, h⟩ := bind_eq_ok_iff.mp h
    obtain ⟨status, hstatus, h⟩ := bind_eq_ok_iff.mp h
    obtain ⟨labels, hlabels, h⟩ := bind_eq_ok_iff.mp h
    obtain ⟨taints, htaints, h⟩ := bind_eq_ok_iff.mp h
    obtain ⟨capacity, hcapacity, h⟩ := bind_eq_ok_iff.mp h
    exact ⟨hv, hkind, metadata, spec, status, labels, taints, capacity, hmetadata, hspec, hstatus,
      hlabels, htaints, hcapacity, Except.ok.inj h⟩
  · rintro ⟨hv, hkind, metadata, spec, status, labels, taints, capacity, hmetadata, hspec, hstatus,
      hlabels, htaints, hcapacity, rfl⟩
    simp only [hv, hkind, hmetadata, hspec, hstatus, hlabels, htaints, hcapacity, bind, Except.bind]

/-- **A node that is read carries the taints of its object.** -/
theorem taints_of_decode {r : Json.Reading} {o : Json} {node : NodeObject}
    (h : decode r o = .ok node) : node.taints.map NodeTaint.toTaint = o.taints := by
  obtain ⟨-, -, _, spec, _, _, taints, _, -, hspec, -, -, htaints, -, rfl⟩ := decode_eq_ok_iff.mp h
  have hmember : (o.member? "spec").bind (Json.member? "taints") = spec.member? "taints" := by
    rcases eq_of_part hspec with ⟨hnone | hnone, rfl⟩ | ⟨w, hw, hsection⟩
    · rw [hnone]
      rfl
    · rw [hnone]
      rfl
    · rw [hw, ← eq_of_section hsection]
      rfl
  unfold Json.taints
  rw [Json.at?_pair, hmember]
  rcases eq_of_part htaints with ⟨hnone | hnone, rfl⟩ | ⟨w, hw, hlist⟩
  · rw [hnone]
    rfl
  · rw [hnone]
    rfl
  · rw [hw]
    cases w with
    | arr items => exact Json.map_of_decodeAll NodeTaint.toTaint_of_decode hlist
    | _ => cases hlist

end NodeObject

/-- A taint that is written reads as itself, without the time. -/
theorem NodeTaint.taint_toJson (t : NodeTaint) : t.toJson.taint = t.toTaint := by
  obtain ⟨key, effect, value, timeAdded⟩ := t
  cases value <;> cases timeAdded <;> rfl

theorem NodeTaint.toTaint_ofTaint (t : Taint) : (NodeTaint.ofTaint t).toTaint = t := by
  obtain ⟨key, value, effect⟩ := t
  unfold ofTaint toTaint
  by_cases h : value = ""
  · rw [h]
    rfl
  · have hne : value.isEmpty = false := by simpa using h
    simp [hne]

/-- A taint is added behind the others exactly where its mark is not among them. -/
theorem withTaint_cases (existing : List NodeTaint) (t : Taint) :
    (Carries (existing.map NodeTaint.toTaint) t ∧ withTaint existing t = none) ∨
    (¬ Carries (existing.map NodeTaint.toTaint) t ∧
      withTaint existing t = some (existing ++ [.ofTaint t])) := by
  have hmarked : existing.any (·.marks t) = true ↔
      Carries (existing.map NodeTaint.toTaint) t := by
    simp [Carries, Taint.Same, NodeTaint.marks, NodeTaint.toTaint]
  unfold withTaint
  split_ifs with h
  · exact .inl ⟨hmarked.mp h, rfl⟩
  · exact .inr ⟨fun hc => h (hmarked.mpr hc), rfl⟩

/-! ### Patches -/

namespace Json

theorem member?_eq_lookupEntry (o : Json) (k : String) : o.member? k = lookupEntry k o.members := by
  cases o <;> rfl

theorem mergeMembers_cons {t : List (String × Json)} {k : String} {c : Json} (hc : c ≠ .null)
    (rest : List (String × Json)) : mergeMembers t ((k, c) :: rest) =
      mergeMembers (insertEntry k (mergePatch ((lookupEntry k t).getD null) c) t) rest := by
  cases c with
  | null => exact absurd rfl hc
  | _ => rfl

/-- **After a merge** a changed member is the old one with its change merged in, and another member
is the old one. -/
theorem lookupEntry_mergeMembers {k : String} : ∀ {changes t : List (String × Json)},
    (changes.map (·.1)).Nodup → (∀ e ∈ changes, e.2 ≠ .null) →
    lookupEntry k (mergeMembers t changes) =
      match lookupEntry k changes with
      | none => lookupEntry k t
      | some c => some (mergePatch ((lookupEntry k t).getD null) c)
  | [], _, _, _ => rfl
  | (j, c) :: rest, t, hnames, hnull => by
    rw [List.map_cons, List.nodup_cons] at hnames
    rw [mergeMembers_cons (hnull _ List.mem_cons_self),
      lookupEntry_mergeMembers hnames.2 fun e he => hnull e (List.mem_cons_of_mem _ he),
      lookupEntry_insertEntry]
    by_cases hj : j = k
    · subst hj
      have hrest : lookupEntry j rest = none :=
        Option.eq_none_iff_forall_not_mem.mpr fun v hv =>
          hnames.1 (List.mem_map.mpr ⟨(j, v), mem_of_lookupEntry hv, rfl⟩)
      simp [lookupEntry, hrest]
    · simp [lookupEntry, hj]

theorem member?_mergePatch {o : Json} {changes : List (String × Json)} {k : String}
    (hnames : (changes.map (·.1)).Nodup) (hnull : ∀ e ∈ changes, e.2 ≠ .null) :
    (o.mergePatch (.obj changes)).member? k =
      match lookupEntry k changes with
      | none => o.member? k
      | some c => some (mergePatch ((o.member? k).getD null) c) := by
  rw [member?_eq_lookupEntry o]
  show lookupEntry k (mergeMembers o.members changes) = _
  exact lookupEntry_mergeMembers hnames hnull

/-- The version of an object. -/
def version? (o : Json) : Option String :=
  (o.at? ["metadata", "resourceVersion"]).bind string?

/-- A version as a part of an object. -/
def versionPart (version : String) : String × Json :=
  ("metadata", .obj [("resourceVersion", .str version)])

/-- Taints as a part of an object. -/
def taintsPart (taints : List NodeTaint) : String × Json :=
  ("spec", .obj [("taints", .arr (taints.map NodeTaint.toJson))])

/-- A patch with taints for the named version of a node, or for any. -/
def taintsPatch (named : Option String) (taints : List NodeTaint) : Json :=
  .obj ((named.map versionPart).toList ++ [taintsPart taints])

theorem version?_taintsPatch (named : Option String) (taints : List NodeTaint) :
    (taintsPatch named taints).version? = named := by
  cases named <;> rfl

/-- The version that the server gives takes the place of the one that the patch names. -/
theorem mergePatch_taintsPatch (named : Option String) (taints : List NodeTaint)
    (version : String) : (taintsPatch named taints).mergePatch (.obj [versionPart version]) =
      .obj [versionPart version, taintsPart taints] := by
  have hlt : "metadata" < "spec" := by decide
  cases named <;>
    simp [taintsPatch, versionPart, taintsPart, mergePatch, mergeMembers, members, insertEntry,
      lookupEntry, hlt]

section

variable (o : Json) (version : String) (taints : List NodeTaint)

/-- The object with a version and taints. -/
def rewritten : Json :=
  o.mergePatch (.obj [versionPart version, taintsPart taints])

theorem member?_rewritten (k : String) : (o.rewritten version taints).member? k =
    match lookupEntry k [versionPart version, taintsPart taints] with
    | none => o.member? k
    | some c => some (mergePatch ((o.member? k).getD null) c) :=
  member?_mergePatch (by simp [versionPart, taintsPart]) (by simp [versionPart, taintsPart])

theorem metadata_rewritten : (o.rewritten version taints).member? "metadata" =
    some (((o.member? "metadata").getD null).mergePatch
      (.obj [("resourceVersion", .str version)])) :=
  member?_rewritten o version taints "metadata"

theorem spec_rewritten : (o.rewritten version taints).member? "spec" =
    some (((o.member? "spec").getD null).mergePatch
      (.obj [("taints", .arr (taints.map NodeTaint.toJson))])) :=
  member?_rewritten o version taints "spec"

theorem version?_rewritten : (o.rewritten version taints).version? = some version := by
  unfold version?
  rw [at?_pair, metadata_rewritten, Option.bind_some, member?_mergePatch (by simp) (by simp)]
  rfl

/-- **New taints take the place of all the others.** -/
theorem taints_rewritten : (o.rewritten version taints).taints =
    taints.map NodeTaint.toTaint := by
  unfold Json.taints
  rw [at?_pair, spec_rewritten, Option.bind_some, member?_mergePatch (by simp) (by simp)]
  show (taints.map NodeTaint.toJson).map Json.taint = _
  rw [List.map_map]
  exact List.map_congr_left fun t _ => t.taint_toJson

theorem nameOf_rewritten : Server.nameOf (o.rewritten version taints) = Server.nameOf o := by
  unfold Server.nameOf
  rw [at?_pair, at?_pair, metadata_rewritten, Option.bind_some,
    member?_mergePatch (by simp) (by simp)]
  show ((((o.member? "metadata").getD null).member? "name").bind string?).getD "" = _
  cases o.member? "metadata" <;> rfl

/-- A node stays where it is. -/
theorem isAt_rewritten (name : String) :
    Server.isAt { model := .node, name := some name } (o.rewritten version taints) =
      Server.isAt { model := .node, name := some name } o := by
  unfold Server.isAt
  rw [nameOf_rewritten, member?_rewritten]
  rfl

end

end Json

end StorageSetup
