import Mathlib.Data.List.Nodup
import Mathlib.Data.List.TakeWhile
import Mathlib.Order.Bounds.Basic
import StorageSetup.Bucket.Policy
/-!
# The form of a policy

The checks of a policy walk its statements in order, with the names they have met, and end at the
first fault. What they accept can be told without the walk: a known version, at least one statement,
names that do not repeat, and each statement well formed on its own. So the order of the statements
does not matter, and a fault is reported at the least place that has one.

Key definitions: `CoversObject`, `Statement.WellFormed`, `Policy.WellFormed`, `Offends`.
Key theorems: `Statement.validate_eq_ok_iff`, `validateStatements_cases`,
`Policy.validate_eq_ok_iff`, `Policy.validate_exact`.
-/

namespace StorageSetup.Bucket

/-! ### What a well-formed policy is -/

/-- The resource is a bucket or one of its objects. The bucket is named up to the first slash. -/
def NamesBucket (resource named : String) : Prop :=
  '/' ∉ named.toList ∧
    (resource = arnStart ++ named ∨ ∃ key, resource = arnStart ++ named ++ "/" ++ key)

/-- The resource belongs to some bucket, and where one is given to that one or to all. -/
def CoversObject (bucket : Option String) (resource : String) : Prop :=
  ∃ named, NamesBucket resource named ∧ ∀ b ∈ bucket, named = b ∨ named = "*"

/-- The star or a map of accounts. -/
def Principal.WellFormed : Principal → Prop
  | .wildcard text => text = "*"
  | .aws _ => True

/-- What the checks ask of a statement by itself. -/
structure Statement.WellFormed (bucket : Option String) (s : Statement) : Prop where
  principal : s.principal.WellFormed
  someAction : s.action.toList ≠ []
  storeActions : ∀ a ∈ s.action.toList, ∃ name, a = "s3:" ++ name
  someResource : s.resource.toList ≠ []
  objects : ∀ resource ∈ s.resource.toList, CoversObject bucket resource

/-- The names that the statements have. -/
def sids (statements : List Statement) : List String :=
  statements.filterMap Statement.sid

/-- What the checks ask of a policy. -/
structure Policy.WellFormed (bucket : Option String) (p : Policy) : Prop where
  version : p.version = policyVersion ∨ p.version = legacyPolicyVersion
  someStatement : p.statements ≠ []
  distinctSids : (sids p.statements).Nodup
  statements : ∀ s ∈ p.statements, s.WellFormed bucket

/-- The statement at the place is not well formed, or its name is taken, by one of the names `seen`
or by a statement before it. -/
def Offends (bucket : Option String) (seen : List String) (statements : List Statement)
    (place : Nat) : Prop :=
  ∃ s, statements[place]? = some s ∧
    ¬ (s.WellFormed bucket ∧ ∀ sid ∈ s.sid, sid ∉ seen ++ sids (statements.take place))

variable {bucket : Option String} {s : Statement} {seen : List String}

/-! ### One statement -/

theorem toList_prefix_iff {start text : String} :
    start.toList.isPrefixOf text.toList = true ↔ ∃ rest, text = start ++ rest := by
  rw [List.isPrefixOf_iff_prefix]
  constructor
  · rintro ⟨rest, h⟩
    refine ⟨String.ofList rest, String.toList_inj.mp ?_⟩
    simp [← h]
  · rintro ⟨rest, rfl⟩
    exact ⟨rest.toList, by simp⟩

/-- What stands before the first slash has none, and a slash or nothing follows it. -/
theorem takeWhile_slash_eq_iff {path named : List Char} :
    path.takeWhile (· ≠ '/') = named ↔
      '/' ∉ named ∧ (path = named ∨ ∃ key, path = named ++ '/' :: key) := by
  constructor
  · rintro rfl
    have hcut := List.takeWhile_append_dropWhile (p := (· ≠ '/')) (l := path)
    refine ⟨fun h => by simpa using List.mem_takeWhile_imp h, ?_⟩
    cases hd : path.dropWhile (· ≠ '/') with
    | nil =>
      rw [hd, List.append_nil] at hcut
      exact .inl hcut.symm
    | cons c key =>
      have hfirst := List.head?_dropWhile_not (· ≠ '/') path
      rw [hd] at hfirst hcut
      obtain rfl : c = '/' := by simpa using hfirst
      exact .inr ⟨key, hcut.symm⟩
  · rintro ⟨hslash, h⟩
    have hall : ∀ c ∈ named, decide (c ≠ '/') = true := fun c hc =>
      decide_eq_true fun he => hslash (he ▸ hc)
    rcases h with rfl | ⟨key, rfl⟩
    · exact List.takeWhile_eq_self_iff.mpr hall
    · rw [List.takeWhile_append_of_pos hall]
      simp

theorem resourceBucket?_append (path : String) :
    resourceBucket? (arnStart ++ path) = some (path.toList.takeWhile (· ≠ '/')) := by
  have hstart : arnStart.toList.isPrefixOf (arnStart ++ path).toList = true :=
    toList_prefix_iff.mpr ⟨path, rfl⟩
  have hpath : (arnStart ++ path).toList.drop arnStart.length = path.toList := by
    rw [String.toList_append, ← String.length_toList, List.drop_left]
  rw [resourceBucket?, if_pos hstart, hpath]

/-- The bucket that a resource is found to name is the one it names. -/
theorem resourceBucket?_eq_some_iff {resource : String} {named : List Char} :
    resourceBucket? resource = some named ↔ NamesBucket resource (String.ofList named) := by
  unfold NamesBucket
  by_cases hstart : ∃ path, resource = arnStart ++ path
  · obtain ⟨path, rfl⟩ := hstart
    have hkey : (∃ key, path.toList = named ++ '/' :: key) ↔
        ∃ key, arnStart ++ path = arnStart ++ String.ofList named ++ "/" ++ key := by
      constructor
      · rintro ⟨key, hkey⟩
        exact ⟨String.ofList key, String.toList_inj.mp (by simp [hkey])⟩
      · rintro ⟨key, hkey⟩
        have hlist := congrArg String.toList hkey
        exact ⟨key.toList, by simpa using hlist⟩
    have hwhole : path.toList = named ↔ arnStart ++ path = arnStart ++ String.ofList named := by
      rw [← String.toList_inj]
      simp
    rw [resourceBucket?_append, Option.some.injEq, takeWhile_slash_eq_iff, hkey, hwhole,
      String.toList_ofList]
  · have hnone : resourceBucket? resource = none := by
      rw [resourceBucket?, if_neg (mt toList_prefix_iff.mp hstart)]
    refine iff_of_false (by simp [hnone]) fun ⟨_, h⟩ => hstart ?_
    rcases h with rfl | ⟨key, rfl⟩
    · exact ⟨_, rfl⟩
    · exact ⟨String.ofList named ++ "/" ++ key, by simp [String.append_assoc]⟩

theorem coversObject_iff {resource : String} : CoversObject bucket resource ↔
    ∃ named, resourceBucket? resource = some named ∧
      ∀ b ∈ bucket, named = b.toList ∨ named = ['*'] := by
  constructor
  · rintro ⟨named, hnamed, hb⟩
    refine ⟨named.toList, ?_, fun b hmem => ?_⟩
    · rwa [resourceBucket?_eq_some_iff, String.ofList_toList]
    · exact (hb b hmem).imp (congrArg String.toList) (congrArg String.toList)
  · rintro ⟨named, hnamed, hb⟩
    refine ⟨String.ofList named, resourceBucket?_eq_some_iff.mp hnamed, fun b hmem => ?_⟩
    rcases hb b hmem with rfl | rfl
    · exact .inl String.ofList_toList
    · exact .inr rfl

theorem checkResources_eq_ok_iff : ∀ resources : List String,
    checkResources bucket resources = .ok () ↔
      ∀ resource ∈ resources, CoversObject bucket resource
  | [] => by simp [checkResources]
  | resource :: rest => by
    rw [List.forall_mem_cons, ← checkResources_eq_ok_iff rest, checkResources, coversObject_iff]
    cases hnamed : resourceBucket? resource with
    | none => simp
    | some named =>
      cases bucket with
      | none => simp
      | some b => by_cases hb : named = b.toList ∨ named = ['*'] <;> simp [hb]

section

variable {ε α : Type} {c : Prop} [Decidable c] {e : ε} {rest : Except ε α} {a : α}

/-- A fault ends the checks that follow it. -/
theorem ite_error_eq_ok_iff : (if c then .error e else rest) = .ok a ↔ ¬ c ∧ rest = .ok a := by
  split_ifs with h <;> simp [h]

theorem ite_else_error_eq_ok_iff : (if c then rest else .error e) = .ok a ↔ c ∧ rest = .ok a := by
  split_ifs with h <;> simp [h]

end

/-- The checks of a statement, one for each thing they ask. -/
theorem Statement.validate_eq_ok_iff_checks : s.validate bucket seen = .ok () ↔
    (∀ sid ∈ s.sid, sid ∉ seen) ∧ s.principal.WellFormed ∧
      (s.action.isEmpty = false ∧ ∀ a ∈ s.action.toList, isStoreAction a = true) ∧
      s.resource.isEmpty = false ∧ checkResources bucket s.resource.toList = .ok () := by
  have hactions : (∀ a ∈ s.action.toList, isStoreAction a = true) ↔
      s.action.toList.find? (fun a => !isStoreAction a) = none := by
    simp
  rw [hactions]
  unfold Statement.validate
  cases s.sid <;> cases s.principal <;>
    cases s.action.toList.find? (fun a => !isStoreAction a) <;>
    simp [bind, Except.bind, ite_error_eq_ok_iff, ite_else_error_eq_ok_iff, Principal.WellFormed]

/-- A single empty text counts as no value, which makes no difference where it would be refused
anyway. -/
theorem OneOrMany.isEmpty_and_forall_iff (values : OneOrMany) {q : String → Prop}
    (hempty : ¬ q "") : values.isEmpty = false ∧ (∀ v ∈ values.toList, q v) ↔
      values.toList ≠ [] ∧ ∀ v ∈ values.toList, q v := by
  cases values with
  | many values => simp [isEmpty, toList]
  | one value =>
    have hne : q value → value ≠ "" := fun hq he => hempty (he ▸ hq)
    simpa [isEmpty, toList] using hne

theorem isStoreAction_iff {action : String} :
    isStoreAction action = true ↔ ∃ name, action = "s3:" ++ name :=
  toList_prefix_iff

theorem not_coversObject_empty : ¬ CoversObject bucket "" := by
  rw [coversObject_iff]
  rintro ⟨named, hnamed, _⟩
  cases hnamed

/-- **The checks of a statement pass where it is well formed and its name is not taken.** -/
theorem Statement.validate_eq_ok_iff : s.validate bucket seen = .ok () ↔
    s.WellFormed bucket ∧ ∀ sid ∈ s.sid, sid ∉ seen := by
  have hactions := OneOrMany.isEmpty_and_forall_iff s.action
    (q := (isStoreAction · = true)) (by decide)
  have hresources := OneOrMany.isEmpty_and_forall_iff s.resource
    (q := CoversObject bucket) not_coversObject_empty
  rw [validate_eq_ok_iff_checks, checkResources_eq_ok_iff, hresources, hactions]
  simp only [isStoreAction_iff]
  constructor
  · rintro ⟨hsid, hp, ⟨ha, has⟩, hr, hrs⟩
    exact ⟨⟨hp, ha, has, hr, hrs⟩, hsid⟩
  · rintro ⟨⟨hp, ha, has, hr, hrs⟩, hsid⟩
    exact ⟨hsid, hp, ⟨ha, has⟩, hr, hrs⟩

/-! ### All statements -/

/-- The first statement is judged by the names seen before it. -/
theorem offends_zero_iff {rest : List Statement} :
    Offends bucket seen (s :: rest) 0 ↔ s.validate bucket seen ≠ .ok () := by
  rw [Ne, Statement.validate_eq_ok_iff]
  simp [Offends, sids]

/-- The others are judged by its name too. -/
theorem offends_succ_iff {rest : List Statement} {place : Nat} :
    Offends bucket seen (s :: rest) (place + 1) ↔
      Offends bucket (s.sid.toList ++ seen) rest place := by
  have hnames : ∀ sid, sid ∈ seen ++ sids ((s :: rest).take (place + 1)) ↔
      sid ∈ s.sid.toList ++ seen ++ sids (rest.take place) := by
    intro sid
    simp only [sids, List.take_succ_cons, List.filterMap_cons, List.mem_append]
    cases s.sid <;> simp [or_left_comm, or_assoc]
  unfold Offends
  simp only [List.getElem?_cons_succ, hnames]

/-- **The walk along the statements** ends behind the last one where none offends, and else with a
fault of the first that does. -/
theorem validateStatements_cases (bucket : Option String) :
    ∀ (statements : List Statement) (index : Nat) (seen : List String),
      (validateStatements bucket index seen statements = .ok () ∧
        ∀ place, ¬ Offends bucket seen statements place) ∨
      ∃ place reason, validateStatements bucket index seen statements =
          .error (.statement (index + place) reason) ∧
        IsLeast {i | Offends bucket seen statements i} place
  | [], _, _ => .inl ⟨rfl, fun _ ⟨_, h, _⟩ => by simp at h⟩
  | s :: rest, index, seen => by
    cases hs : s.validate bucket seen with
    | error reason =>
      have hoffends : Offends bucket seen (s :: rest) 0 := by
        rw [offends_zero_iff, hs]
        nofun
      refine .inr ⟨0, reason, ?_, hoffends, fun _ _ => Nat.zero_le _⟩
      simp [validateStatements, hs]
    | ok _ =>
      have hzero : ¬ Offends bucket seen (s :: rest) 0 := by
        rw [offends_zero_iff, hs]
        simp
      have hwalk : validateStatements bucket index seen (s :: rest) =
          validateStatements bucket (index + 1) (s.sid.toList ++ seen) rest := by
        simp [validateStatements, hs]
      rw [hwalk]
      rcases validateStatements_cases bucket rest (index + 1) (s.sid.toList ++ seen) with
        ⟨hok, hnone⟩ | ⟨place, reason, herror, hleast⟩
      · refine .inl ⟨hok, fun place => ?_⟩
        cases place with
        | zero => exact hzero
        | succ place => exact mt offends_succ_iff.mp (hnone place)
      · refine .inr ⟨place + 1, reason, ?_, offends_succ_iff.mpr hleast.1, fun other h => ?_⟩
        · rw [herror, Nat.add_assoc, Nat.add_comm 1]
        · cases other with
          | zero => exact absurd h hzero
          | succ other => exact Nat.succ_le_succ (hleast.2 (offends_succ_iff.mp h))

/-- No statement offends where all are well formed and their names are new and do not repeat. -/
theorem forall_not_offends_iff : ∀ (statements : List Statement) (seen : List String),
    (∀ place, ¬ Offends bucket seen statements place) ↔
      (∀ s ∈ statements, s.WellFormed bucket) ∧ (sids statements).Nodup ∧
        ∀ sid ∈ sids statements, sid ∉ seen
  | [], seen => by simp [Offends, sids]
  | s :: rest, seen => by
    have hplaces : (∀ place, ¬ Offends bucket seen (s :: rest) place) ↔
        s.validate bucket seen = .ok () ∧
          ∀ place, ¬ Offends bucket (s.sid.toList ++ seen) rest place := by
      constructor
      · intro h
        exact ⟨not_not.mp (mt offends_zero_iff.mpr (h 0)),
          fun place => mt offends_succ_iff.mpr (h (place + 1))⟩
      · rintro ⟨hs, hrest⟩ place
        cases place with
        | zero => exact mt offends_zero_iff.mp (not_not.mpr hs)
        | succ place => exact mt offends_succ_iff.mp (hrest place)
    rw [hplaces, Statement.validate_eq_ok_iff, forall_not_offends_iff rest, List.forall_mem_cons]
    cases hsid : s.sid with
    | none =>
      have hsids : sids (s :: rest) = sids rest := by simp [sids, hsid]
      rw [hsids]
      simp [and_assoc]
    | some sid =>
      have hsids : sids (s :: rest) = sid :: sids rest := by simp [sids, hsid]
      have hfresh : (∀ other ∈ sids rest, other ∉ (some sid).toList ++ seen) ↔
          sid ∉ sids rest ∧ ∀ other ∈ sids rest, other ∉ seen := by
        simp only [Option.toList_some, List.cons_append, List.nil_append, List.mem_cons, not_or,
          forall_and, List.forall_mem_ne']
      rw [hsids, hfresh, List.nodup_cons, List.forall_mem_cons]
      simp only [Option.mem_some_iff, forall_eq']
      tauto

/-! ### The policy -/

namespace Policy

variable {p : Policy}

/-- **A policy is accepted exactly where it is well formed.** -/
theorem validate_eq_ok_iff : p.validate bucket = .ok () ↔ p.WellFormed bucket := by
  have hwalk : validateStatements bucket 0 [] p.statements = .ok () ↔
      ∀ place, ¬ Offends bucket [] p.statements place := by
    rcases validateStatements_cases bucket p.statements 0 [] with ⟨hok, hnone⟩ |
      ⟨place, reason, herror, hleast⟩
    · exact iff_of_true hok hnone
    · exact iff_of_false (by simp [herror]) fun h => h place hleast.1
  unfold validate
  rw [ite_error_eq_ok_iff, ite_error_eq_ok_iff, hwalk, forall_not_offends_iff]
  constructor
  · rintro ⟨hversion, hsome, hstatements, hsids, -⟩
    exact ⟨by tauto, by simpa using hsome, hsids, hstatements⟩
  · rintro ⟨hversion, hsome, hsids, hstatements⟩
    exact ⟨by tauto, by simpa using hsome, hstatements, hsids, by simp⟩

/-- A fault of a statement is reported at the least place that has one. -/
theorem validate_eq_error_iff {place : Nat} :
    (∃ reason, p.validate bucket = .error (.statement place reason)) ↔
      (p.version = policyVersion ∨ p.version = legacyPolicyVersion) ∧
        IsLeast {i | Offends bucket [] p.statements i} place := by
  have hwalk : (∃ reason, validateStatements bucket 0 [] p.statements =
      .error (.statement place reason)) ↔
        IsLeast {i | Offends bucket [] p.statements i} place := by
    rcases validateStatements_cases bucket p.statements 0 [] with ⟨hok, hnone⟩ |
      ⟨first, reason, herror, hleast⟩
    · exact iff_of_false (by simp [hok]) fun h => hnone place h.1
    · rw [herror, Nat.zero_add]
      constructor
      · rintro ⟨_, h⟩
        cases h
        exact hleast
      · intro h
        exact ⟨reason, by rw [hleast.unique h]⟩
  unfold validate
  split_ifs with hversion hsome
  · refine iff_of_false (by simp) fun h => ?_
    tauto
  · have hnone : p.statements = [] := by simpa using hsome
    refine iff_of_false (by simp) fun ⟨_, ⟨_, h, _⟩, _⟩ => ?_
    simp [hnone] at h
  · rw [hwalk, and_iff_right]
    tauto

/-- What is well formed for a bucket is well formed. -/
theorem WellFormed.withoutBucket (h : p.WellFormed bucket) : p.WellFormed none where
  version := h.version
  someStatement := h.someStatement
  distinctSids := h.distinctSids
  statements s hs :=
    { h.statements s hs with
      objects := fun resource hr =>
        let ⟨named, hnamed, _⟩ := (h.statements s hs).objects resource hr
        ⟨named, hnamed, nofun⟩ }

/-- The order of the statements does not matter. -/
theorem wellFormed_perm {statements : List Statement} (hperm : statements.Perm p.statements) :
    (Policy.mk p.version statements).WellFormed bucket ↔ p.WellFormed bucket := by
  have hsids : (sids statements).Nodup ↔ (sids p.statements).Nodup :=
    (hperm.filterMap Statement.sid).nodup_iff
  have hsome : statements ≠ [] ↔ p.statements ≠ [] := by
    rw [Ne, Ne, ← List.length_eq_zero_iff, ← List.length_eq_zero_iff, hperm.length_eq]
  constructor
  · rintro ⟨hversion, hne, hnodup, hall⟩
    exact ⟨hversion, hsome.mp hne, hsids.mp hnodup, fun s hs => hall s (hperm.mem_iff.mpr hs)⟩
  · rintro ⟨hversion, hne, hnodup, hall⟩
    exact ⟨hversion, hsome.mpr hne, hsids.mpr hnodup, fun s hs => hall s (hperm.mem_iff.mp hs)⟩

/-- **What the checks of a policy accept.** Exactly the well-formed policies pass, in whatever order
their statements stand, and what passes for a bucket passes without one. Where a statement is at
fault, the report has the least place at which one is. -/
theorem validate_exact (p : Policy) (bucket : Option String) :
    (p.validate bucket = .ok () ↔ p.WellFormed bucket) ∧
    (∀ place, (∃ reason, p.validate bucket = .error (.statement place reason)) ↔
      (p.version = policyVersion ∨ p.version = legacyPolicyVersion) ∧
        IsLeast {i | Offends bucket [] p.statements i} place) ∧
    (∀ statements, statements.Perm p.statements →
      ((Policy.mk p.version statements).validate bucket = .ok () ↔
        p.validate bucket = .ok ())) ∧
    (p.validate bucket = .ok () → p.validate none = .ok ()) := by
  refine ⟨validate_eq_ok_iff, fun _ => validate_eq_error_iff, fun statements hperm => ?_, ?_⟩
  · rw [validate_eq_ok_iff, validate_eq_ok_iff, wellFormed_perm hperm]
  · rw [validate_eq_ok_iff, validate_eq_ok_iff]
    exact WellFormed.withoutBucket

/-- Reading for an account, and no deletion for anyone. -/
def readButKeep : Policy where
  version := policyVersion
  statements := [
    { sid := some "Read", effect := .allow, principal := .aws (.one "111122223333")
      action := .one "s3:GetObject", resource := .one "arn:aws:s3:::logs/*", condition := none },
    { sid := some "Keep", effect := .deny, principal := .anyone
      action := .many ["s3:DeleteObject", "s3:DeleteBucket"]
      resource := .many ["arn:aws:s3:::logs", "arn:aws:s3:::*/kept"], condition := none }]

theorem validate_exact_readButKeep :
    readButKeep.WellFormed (some "logs") ∧ readButKeep.validate none = .ok () ∧
      (Policy.mk readButKeep.version readButKeep.statements.reverse).validate (some "logs") =
        .ok () := by
  have hok : readButKeep.validate (some "logs") = .ok () := by decide
  obtain ⟨hiff, -, hperm, hnone⟩ := validate_exact readButKeep (some "logs")
  exact ⟨hiff.mp hok, hnone hok, (hperm _ (List.reverse_perm _)).mpr hok⟩

end Policy

end StorageSetup.Bucket
