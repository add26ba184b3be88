import StorageSetup.Bucket.Cors
import StorageSetup.Bucket.Policy
import StorageSetup.Proofs.Canonical
/-!
# Saved bucket documents

A bucket policy and the cross-origin rules are read back from their saved forms, and from the
canonical ones too, where the members of every object stand sorted by name. The forms of a principal
and of a single value or a list are told apart by their shapes alone, and what is left out of a saved
form has the value of a missing member. The values that a condition compares with can be anything:
they are kept in canonical form, as every policy that was read has them.

Key definitions: `Bucket.Statement.Canonical`, `Bucket.Policy.Canonical`.
Key theorems: `Bucket.Policy.reads`, `Bucket.Cors.reads`, `Bucket.documents_read_back`.
-/

namespace StorageSetup.Bucket

open Json (Reads Stable Yields reads_record stable_record)

/-! ### Values and principals -/

namespace OneOrMany

/-- A text and a list are told apart by the shape. -/
@[simp] theorem reads (a : OneOrMany) : Reads decode a.toJson a := by
  cases a with
  | one value => exact fun _ => rfl
  | many values => exact (Json.reads_strings values).map many

theorem stable : Stable decode := by
  intro r v a h
  cases v with
  | str s => exact h
  | arr items =>
    obtain ⟨values, hvalues, rfl⟩ := map_eq_ok_iff.mp h
    exact map_eq_ok_iff.mpr
      ⟨values, Json.decodeAll_canonicalItems Json.stable_text r items values hvalues, rfl⟩
  | _ => cases h

end OneOrMany

@[simp] theorem Effect.reads (e : Effect) : Reads decode (.str e.code) e := by
  cases e <;> exact fun _ => rfl

namespace Principal

open Json Fields in
/-- A bare text and accounts are told apart by the shape. -/
@[simp] theorem reads (p : Principal) : Reads decode p.toJson p := by
  cases p with
  | wildcard text => exact fun _ => rfl
  | aws accounts =>
    have h : Reads (record "Aws" (.cons (required "AWS" OneOrMany.decode) .nil))
        (.obj [("AWS", accounts.toJson)]) (accounts, ()) := by
      apply reads_record <;> simp [names, Holds, required]
    exact h.bind rfl

theorem stable : Stable decode := by
  intro r v a h
  cases v with
  | str s => exact h
  | obj ms =>
    obtain ⟨values, hvalues, h⟩ := bind_eq_ok_iff.mp h
    have haccounts :
        Stable (Json.record "Aws" (.cons (Json.required "AWS" OneOrMany.decode) .nil)) :=
      stable_record ⟨OneOrMany.stable, trivial⟩
    exact bind_eq_ok_iff.mpr ⟨values, haccounts r (.obj ms) values hvalues, h⟩
  | _ => cases h

end Principal

/-! ### Statements -/

namespace Statement

/-- The values that the condition compares with are in canonical form. -/
def Canonical (s : Statement) : Prop :=
  ∀ c ∈ s.condition, ∀ op ∈ c.entries, ∀ e ∈ op.2.entries, e.2.Canonical

theorem reads_condition {c : Condition} (h : ∀ op ∈ c.entries, ∀ e ∈ op.2.entries, e.2.Canonical) :
    Reads (Json.dict (Json.dict Json.anything)) (.ofDict (.ofDict id) c) c :=
  Json.reads_dict c fun op hop =>
    Json.reads_dict op.2 fun e he _ => congrArg Except.ok (h op hop e he)

open Json Fields in
theorem reads (s : Statement) (h : s.Canonical) : Reads decode s.toJson s := by
  obtain ⟨sid, effect, principal, action, resource, condition⟩ := s
  have hcondition : ∀ c ∈ condition, Reads (optional (dict (dict anything)))
      (.ofDict (.ofDict id) c) (some c) := fun c hc =>
    reads_optional nofun (reads_condition (h c hc))
  have hsid : ∀ id, Reads (optional text) (.str id) (some id) := fun id =>
    reads_optional nofun (reads_text id)
  refine (reads_record (sid, effect, principal, action, resource, condition, ()) ?_ ?_ ?_).bind rfl
  · simp [names, required, defaulted]
  · cases sid <;> cases condition <;> simp
  · cases sid <;> cases condition <;>
      simp [Holds, required, defaulted, hsid, hcondition]

theorem stable : Stable decode := by
  have hcondition : Stable (Json.optional (Json.dict (Json.dict Json.anything))) :=
    Json.stable_optional (Json.stable_dict (Json.stable_dict Json.stable_anything))
  refine (stable_record ?_).bind _
  exact ⟨Json.stable_optional Json.stable_text, Json.stable_variant _, Principal.stable,
    OneOrMany.stable, OneOrMany.stable, hcondition, trivial⟩

/-- A statement that was read has a condition in canonical form. -/
theorem yields_canonical : Yields decode Canonical := by
  intro r v s h
  obtain ⟨⟨sid, effect, principal, action, resource, condition, _⟩, hvalues, h⟩ :=
    bind_eq_ok_iff.mp h
  cases h
  obtain ⟨_, _, _, _, _, hcondition, _⟩ := Json.give_of_record hvalues
  refine hcondition.elim (p := fun o => ∀ c ∈ o, ∀ op ∈ c.entries, ∀ e ∈ op.2.entries,
    e.2.Canonical) ?_ ?_ ?_
  · exact Json.yields_optional (Json.yields_dict (Json.yields_dict Json.yields_anything))
  · rintro _ ⟨⟩
    exact nofun
  · rintro _ ⟨⟩
    exact nofun

end Statement

/-! ### Policies -/

namespace Policy

/-- The values that the conditions compare with are in canonical form. -/
def Canonical (p : Policy) : Prop :=
  ∀ s ∈ p.statements, s.Canonical

open Json Fields in
theorem reads (p : Policy) (h : p.Canonical) : Reads decode p.toJson p := by
  have hstatements := reads_list p.statements fun s hs => s.reads (h s hs)
  refine (reads_record (p.version, p.statements, ()) ?_ ?_ ?_).bind rfl
  · simp [names, required]
  · simp
  · simp [Holds, required, hstatements]

theorem stable : Stable decode := by
  refine (stable_record ?_).bind _
  exact ⟨Json.stable_text, Json.stable_list Statement.stable, trivial⟩

/-- A policy that was read has all conditions in canonical form. -/
theorem yields_canonical : Yields decode Canonical := by
  intro r v p h
  obtain ⟨⟨version, statements, _⟩, hvalues, h⟩ := bind_eq_ok_iff.mp h
  cases h
  obtain ⟨_, hstatements, _⟩ := Json.give_of_record hvalues
  exact hstatements.elim (Json.yields_list Statement.yields_canonical) nofun nofun

end Policy

/-! ### Cross-origin rules -/

namespace CorsRule

open Json Fields in
theorem reads (c : CorsRule) : Reads decode c.toJson c := by
  obtain ⟨id, headers, methods, origins, exposed, age⟩ := c
  have hid : ∀ id, Reads (optional text) (.str id) (some id) := fun id =>
    reads_optional nofun (reads_text id)
  have hage : ∀ n : UInt32, Reads (optional word32) (.nat n.toNat) (some n.toNat) := fun n =>
    reads_optional nofun (reads_word32 n)
  refine (reads_record (id, headers, methods, origins, exposed, age.map UInt32.toNat, ())
    ?_ ?_ ?_).bind ?_
  · simp [names, required, defaulted]
  · cases id <;> cases headers <;> cases exposed <;> cases age <;> simp [maybeList]
  · cases id <;> cases headers <;> cases exposed <;> cases age <;>
      simp [maybeList, Holds, required, defaulted, hid, hage]
  · cases age <;> simp

theorem stable : Stable decode := by
  have hstrings : Stable (Json.list Json.text) := Json.stable_list Json.stable_text
  refine (stable_record ?_).bind _
  exact ⟨Json.stable_optional Json.stable_text, hstrings, hstrings, hstrings, hstrings,
    Json.stable_optional (Json.stable_natBelow _ _), trivial⟩

end CorsRule

namespace Cors

open Json Fields in
theorem reads (c : Cors) : Reads decode c.toJson c := by
  have hrules := reads_list c.rules fun rule _ => rule.reads
  refine (reads_record (c.rules, ()) ?_ ?_ ?_).bind rfl <;> simp [names, Holds, required, hrules]

theorem stable : Stable decode := by
  refine (stable_record ?_).bind _
  exact ⟨Json.stable_list CorsRule.stable, trivial⟩

end Cors

/-! ### Documents -/

/-- **Bucket documents are read back from their saved forms.** A policy with conditions in canonical
form is read from its saved form, and from the canonical form of it, as the same policy, so whatever
policy is read there is public where this one is and gets the same answer from the checks for every
bucket. Every policy that was read has its conditions in canonical form. Cross-origin rules are read
back in the same way, with the same answer from their checks. -/
theorem documents_read_back :
    (∀ (p : Policy) (r : Json.Reading), p.Canonical → ∀ v ∈ [p.toJson, p.toJson.canonical],
      Policy.decode r v = .ok p ∧ ∀ q, Policy.decode r v = .ok q →
        q.isPublic = p.isPublic ∧ ∀ bucket, q.validate bucket = p.validate bucket) ∧
    (∀ r v p, Policy.decode r v = .ok p → p.Canonical) ∧
    ∀ (c : Cors) (r : Json.Reading), ∀ v ∈ [c.toJson, c.toJson.canonical],
      Cors.decode r v = .ok c ∧ ∀ q, Cors.decode r v = .ok q → q.validate = c.validate := by
  refine ⟨fun p r hp v hv => ?_, Policy.yields_canonical, fun c r v hv => ?_⟩
  · have hread : Policy.decode r v = .ok p := by
      simp only [List.mem_cons, List.not_mem_nil, or_false] at hv
      rcases hv with rfl | rfl
      · exact p.reads hp r
      · exact (p.reads hp).canonical Policy.stable r
    refine ⟨hread, fun q hq => ?_⟩
    obtain rfl : p = q := Except.ok.inj (hread.symm.trans hq)
    exact ⟨rfl, fun _ => rfl⟩
  · have hread : Cors.decode r v = .ok c := by
      simp only [List.mem_cons, List.not_mem_nil, or_false] at hv
      rcases hv with rfl | rfl
      · exact c.reads r
      · exact c.reads.canonical Cors.stable r
    refine ⟨hread, fun q hq => ?_⟩
    obtain rfl : c = q := Except.ok.inj (hread.symm.trans hq)
    rfl

/-- A policy with one statement of its own and one with a condition on an object. -/
def conditional : Policy where
  version := policyVersion
  statements := [
    { sid := some "Read", effect := .allow, principal := .anyone, action := .one "s3:GetObject",
      resource := .one "arn:aws:s3:::photos/*", condition := none },
    { sid := none, effect := .deny, principal := .aws (.many ["*"]),
      action := .many ["s3:PutObject", "s3:DeleteObject"],
      resource := .many ["arn:aws:s3:::photos", "arn:aws:s3:::photos/*"],
      condition := some ⟨[("NumericLessThan", ⟨[("s3:max-keys",
        .obj [("free", .bool true), ("keys", .real 10.5)])], List.pairwise_singleton ..⟩)],
        List.pairwise_singleton ..⟩ }]

theorem documents_read_back_conditional : conditional.Canonical ∧
    Policy.decode .direct conditional.toJson.canonical = .ok conditional ∧
    conditional.toJson.canonical.members.map (·.1) = ["Statement", "Version"] := by
  have h : conditional.Canonical := by
    intro s hs c hc op hop e he
    rcases List.mem_pair.mp hs with rfl | rfl
    · cases hc
    · cases hc
      obtain rfl := List.mem_singleton.mp hop
      obtain rfl := List.mem_singleton.mp he
      rfl
  exact ⟨h, ((documents_read_back.1 conditional .direct h) _ (by simp)).1, rfl⟩

end StorageSetup.Bucket
