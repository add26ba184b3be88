import StorageSetup.Proofs.Documents
/-!
# Public policies behind a block

A statement that allows anyone something and compares no key grants it to all requests. The test for
public policies knows such a statement by its missing condition, so one that has a condition without
keys is not found, and a block of public policies lets it pass. A block refuses the other ones as
long as it is not lifted.

Key definitions: `Statement.grantsAnyone`, `Policy.grantsAnyone`, `Store.Blocks`.
Key theorems: `Policy.isPublic_iff`, `Store.blocks_after`, `Store.putPolicy_behind_block`.
-/

namespace StorageSetup.Bucket

/-- Some operator of the condition compares a key. -/
def Condition.compares (c : Condition) : Bool :=
  c.entries.any fun operator => !operator.2.isEmpty

namespace Statement

/-- The statement allows anyone something and compares no key of the request. -/
def grantsAnyone (s : Statement) : Bool :=
  s.effect == .allow && s.principal.isAnyone && !s.condition.any Condition.compares

theorem isPublic_iff {s : Statement} :
    s.isPublic = true ↔ s.grantsAnyone = true ∧ s.condition = none := by
  unfold isPublic grantsAnyone
  cases s.condition <;> simp

/-- A condition without keys hides the statement that it stands in. -/
theorem isPublic_withCondition (s : Statement) (c : Condition) :
    { s with condition := some c }.isPublic = false := by
  simp [isPublic]

theorem isPublic_withoutCondition {s : Statement} :
    { s with condition := none }.isPublic = true ↔
      s.effect = .allow ∧ s.principal.isAnyone = true := by
  simp [isPublic]

end Statement

namespace Policy

/-- Some statement grants anyone something. -/
def grantsAnyone (p : Policy) : Bool :=
  p.statements.any Statement.grantsAnyone

/-- A policy is public where a statement without a condition grants anyone something. -/
theorem isPublic_iff {p : Policy} :
    p.isPublic = true ↔ ∃ s ∈ p.statements, s.grantsAnyone = true ∧ s.condition = none := by
  simp only [isPublic, List.any_eq_true, Statement.isPublic_iff]

theorem isPublic_append {version : String} {front back : List Statement} {s : Statement} :
    (Policy.mk version (front ++ s :: back)).isPublic =
      (s.isPublic || (Policy.mk version (front ++ back)).isPublic) := by
  simp only [isPublic, List.any_append, List.any_cons]
  exact Bool.or_left_comm _ _ _

/-- A condition is told from none by public statements alone, and then only where no other statement
is public. -/
theorem isPublic_withCondition_iff (version : String) (front back : List Statement) (s : Statement)
    (c : Condition) :
    (Policy.mk version (front ++ { s with condition := some c } :: back)).isPublic =
        (Policy.mk version (front ++ { s with condition := none } :: back)).isPublic ↔
      ¬ (s.effect = .allow ∧ s.principal.isAnyone = true) ∨
        (Policy.mk version (front ++ back)).isPublic = true := by
  rw [isPublic_append, isPublic_append, Statement.isPublic_withCondition, Bool.false_or,
    ← Statement.isPublic_withoutCondition]
  cases { s with condition := none }.isPublic <;>
    cases (Policy.mk version (front ++ back)).isPublic <;> simp

end Policy

namespace Store

variable {store : Store} {b : String}

/-- The bucket is there and refuses public policies. -/
def Blocks (store : Store) (b : String) : Prop :=
  ∃ d, store.get? b = some d ∧ d.accessBlock.any (·.blockPublicPolicy) = true

/-- A block is replaced and never deleted. -/
theorem write?_block_ne_deleted (request : Request) : Kind.block.write? request ≠ some none := by
  cases request <;> exact nofun

/-- A block of public policies is lifted by another block alone. -/
theorem blocks_run (op : String × Request) (h : store.Blocks b)
    (hop : ∀ block, op = (b, .putBlock block) → block.blockPublicPolicy = true) :
    (store.run op.1 op.2).2.Blocks b := by
  obtain ⟨d₀, hd₀, hblock⟩ := h
  rcases run_cases store op.1 op.2 with ⟨e, he⟩ | ⟨d, d', a, next, hd, -, ha, he, hnext⟩
  · rw [he]
    exact ⟨d₀, hd₀, hblock⟩
  · rw [he]
    by_cases hb : op.1 = b
    · refine ⟨d', by rw [hnext, if_pos hb], ?_⟩
      have hkept : d = d₀ := Option.some.inj (hd.symm.trans (hb ▸ hd₀))
      have hstored : d'.accessBlock = _ := stored_answer ha .block
      rw [hstored]
      cases hw : Kind.block.write? op.2 with
      | none => exact hkept ▸ hblock
      | some written =>
        cases written with
        | none => exact absurd hw (write?_block_ne_deleted op.2)
        | some block => exact hop block (Prod.ext hb (Kind.write?_eq_some_iff.mp hw))
    · exact ⟨d₀, by rw [hnext, if_neg hb, hd₀], hblock⟩

theorem blocks_after : ∀ (ops : List (String × Request)) {store : Store}, store.Blocks b →
    (∀ block, (b, .putBlock block) ∈ ops → block.blockPublicPolicy = true) →
    (store.after ops).Blocks b
  | [], _, h, _ => h
  | op :: ops, _, h, hops => by
    refine blocks_after ops (blocks_run op h fun block he => ?_) fun block hmem => ?_
    · exact hops block (he ▸ List.mem_cons_self)
    · exact hops block (List.mem_cons_of_mem _ hmem)

/-- A bucket that is there takes every block. -/
theorem blocks_putBlock {block : AccessBlock} {d : Documents} (hd : store.get? b = some d)
    (hblock : block.blockPublicPolicy = true) : (store.run b (.putBlock block)).2.Blocks b := by
  unfold run
  rw [hd]
  exact ⟨_, (Dict.get?_insert store b b _).trans (if_pos rfl), hblock⟩

/-- What a bucket behind a block answers to a policy: first come the checks of the policy, then the
block. -/
theorem run_putPolicy (h : store.Blocks b) (p : Policy) :
    (∃ e, p.validate (some b) = .error e ∧
      store.run b (.putPolicy p) = (.error (.invalidPolicy e), store)) ∨
    p.validate (some b) = .ok () ∧
      (p.isPublic = true ∧ store.run b (.putPolicy p) = (.error (.accessDenied b), store) ∨
        p.isPublic = false ∧ (store.run b (.putPolicy p)).1 = .ok .done) := by
  obtain ⟨d, hd, hblock⟩ := h
  unfold run checkDocument Store.answer
  dsimp only
  cases p.validate (some b) with
  | error e => exact .inl ⟨e, rfl, rfl⟩
  | ok _ =>
    refine .inr ⟨rfl, ?_⟩
    rw [hd]
    cases hp : p.isPublic with
    | true => exact .inl ⟨rfl, by simp [hblock]⟩
    | false => exact .inr ⟨rfl, by simp⟩

/-- **What a block of public policies refuses.** From the time a block is put until it is lifted, a
bucket refuses of the valid policies those in which a statement that grants anyone something has no
condition at all. It takes a policy where all such statements have one, though none compares a key.
Whether a statement has a condition matters to the test where the statement allows anyone something
and no other statement is public. -/
theorem putPolicy_behind_block (names : List String) (before rest : List (String × Request))
    {b : String} {block : AccessBlock} (hb : b ∈ names) (hblock : block.blockPublicPolicy = true)
    (hkept : ∀ other, (b, .putBlock other) ∈ rest → other.blockPublicPolicy = true) :
    let store := (ofNames names).after (before ++ (b, .putBlock block) :: rest)
    (∀ p : Policy,
      ((∃ e, store.run b (.putPolicy p) = (.error e, store)) ↔
        p.validate (some b) ≠ .ok () ∨
          ∃ s ∈ p.statements, s.grantsAnyone = true ∧ s.condition = none) ∧
      (p.validate (some b) = .ok () →
        (∃ s ∈ p.statements, s.grantsAnyone = true ∧ s.condition = none) →
        store.run b (.putPolicy p) = (.error (.accessDenied b), store))) ∧
    ∀ version front back (s : Statement) (c : Condition),
      (Policy.mk version (front ++ { s with condition := some c } :: back)).isPublic =
          (Policy.mk version (front ++ { s with condition := none } :: back)).isPublic ↔
        ¬ (s.effect = .allow ∧ s.principal.isAnyone = true) ∨
          (Policy.mk version (front ++ back)).isPublic = true := by
  intro store
  have hblocks : store.Blocks b := by
    obtain ⟨d, hd⟩ : ∃ d, ((ofNames names).after before).get? b = some d :=
      Option.ne_none_iff_exists'.mp
        (mt (get?_after_eq_none_iff before).mp (by simp [get?_ofNames, hb]))
    have hput := blocks_after rest (blocks_putBlock hd hblock) hkept
    rwa [show store = _ from List.foldl_append]
  refine ⟨fun p => ?_, Policy.isPublic_withCondition_iff⟩
  rw [← Policy.isPublic_iff]
  rcases run_putPolicy hblocks p with ⟨e, hv, hrun⟩ | ⟨hv, ⟨hp, hrun⟩ | ⟨hp, hrun⟩⟩
  · simp [hv, hrun]
  · simp [hv, hp, hrun]
  · have hne : ¬ ∃ e, store.run b (.putPolicy p) = (.error e, store) := by
      rintro ⟨e, he⟩
      rw [he] at hrun
      cases hrun
    simp [hv, hp, hne]

end Store

/-! ### A grant behind a condition without keys -/

/-- Anyone may read the objects of the bucket, under a condition or none. -/
def Policy.readByAnyone (bucket : String) (condition : Option Condition) : Policy :=
  ⟨policyVersion, [⟨some "PublicRead", .allow, .anyone, .one "s3:GetObject",
    .one ("arn:aws:s3:::" ++ bucket ++ "/*"), condition⟩]⟩

theorem Store.putPolicy_behind_block_site :
    let store := (ofNames ["site"]).after [("site", .putBlock .all), ("site", .deletePolicy)]
    "site" ∈ ["site"] ∧
    AccessBlock.all.blockPublicPolicy = true ∧
    (∀ other : AccessBlock, ("site", Request.putBlock other) ∈ [("site", Request.deletePolicy)] →
      other.blockPublicPolicy = true) ∧
    (Policy.readByAnyone "site" none).grantsAnyone = true ∧
    ∃ e, store.run "site" (.putPolicy (.readByAnyone "site" none)) = (.error e, store) := by
  intro store
  have hb : "site" ∈ ["site"] := List.mem_cons_self
  have hkept : ∀ other : AccessBlock,
      ("site", Request.putBlock other) ∈ [("site", Request.deletePolicy)] →
        other.blockPublicPolicy = true := by simp
  have hgrants : (Policy.readByAnyone "site" none).grantsAnyone = true := by decide
  obtain ⟨e, he⟩ := ((Store.putPolicy_behind_block ["site"] [] [("site", .deletePolicy)] hb
    (show AccessBlock.all.blockPublicPolicy = true from rfl) hkept).1
      (.readByAnyone "site" none)).1.mpr (.inr ⟨_, List.mem_cons_self, by decide, rfl⟩)
  exact ⟨hb, rfl, hkept, hgrants, e, he⟩

/-- A condition without keys is not taken for none, and a block does not refuse all policies that
grant anyone something. -/
theorem Store.not_putPolicy_refused :
    (Policy.readByAnyone "site" (some ∅)).isPublic ≠ (Policy.readByAnyone "site" none).isPublic ∧
    ¬ ∀ (names : List String) (before rest : List (String × Request)) (b : String)
      (block : AccessBlock), b ∈ names → block.blockPublicPolicy = true →
      (∀ other, (b, .putBlock other) ∈ rest → other.blockPublicPolicy = true) →
      ∀ p : Policy, p.grantsAnyone = true →
        ∃ e, (((ofNames names).after (before ++ (b, .putBlock block) :: rest)).run b
          (.putPolicy p)).1 = .error e := by
  refine ⟨by decide, fun hall => ?_⟩
  obtain ⟨e, he⟩ := hall ["site"] [] [] "site" .all List.mem_cons_self rfl nofun
    (.readByAnyone "site" (some ∅)) (by decide)
  have hok : (((ofNames ["site"]).after [("site", .putBlock .all)]).run "site"
      (.putPolicy (.readByAnyone "site" (some ∅)))).1.isOk = true := by decide
  rw [List.nil_append] at he
  rw [he] at hok
  cases hok

end StorageSetup.Bucket
