import StorageSetup.Submission.Execute
/-!
# Runs of a plan

A run performs the operations of its plan in order and stops behind the first that fails. Each is
reported, then makes its call, and nothing else is reported or asked. The cluster may answer as it
likes and may change with every call; what comes of an operation depends on those performed before.

Key definitions: `Operation.record`, `Operation.Asks`, `clusterAfter`, `outcomeAt`,
`Run.StopsBehind`.
Key theorems: `executeFrom_of_ok`, `executeFrom_of_error`, `Run.exists_stopsBehind`,
`asks_waitForVendor`, `execute_stops_at_first_failure`.
-/

namespace StorageSetup

namespace Operation

/-- The calls that an operation makes, one at most. -/
def calls (r : Registry) (o : Operation) : List Call :=
  match o.call r with
  | .ok (some c) => [c]
  | _ => []

/-- What a run records of an operation: its report, and behind it its calls. -/
def record (r : Registry) (index : Nat) (o : Operation) : List Event :=
  .progress index o :: (o.calls r).map .call

/-- The operation makes the call and no other: a run records its report and behind it the call, and
what the cluster answers is what comes of it. -/
structure Asks {σ : Type} (api : ClusterApi σ) (r : Registry) (o : Operation) (c : Call) :
    Prop where
  record_eq : ∀ index, o.record r index = [.progress index o, .call c]
  perform_eq : ∀ st, o.perform api r st = ([c], api.perform c st)

/-- The operation makes no call: a run records its report alone, the outcome is the given one, and
the cluster stays as it is. -/
structure AsksNothing {σ : Type} (api : ClusterApi σ) (r : Registry) (o : Operation)
    (outcome : Except ApiError Unit) : Prop where
  record_eq : ∀ index, o.record r index = [.progress index o]
  perform_eq : ∀ st, o.perform api r st = ([], outcome, st)

end Operation

variable {σ : Type} (api : ClusterApi σ) (r : Registry)

/-- The cluster after operations, whatever came of each. -/
def clusterAfter (ops : List Operation) (st : σ) : σ :=
  ops.foldl (fun st o => (o.perform api r st).2.2) st

/-- What comes of the operation in a place, with those before it performed. -/
def outcomeAt (ops : List Operation) (st : σ) (k : Nat) : Option (Except ApiError Unit) :=
  ops[k]?.map fun o => (o.perform api r (clusterAfter api r (ops.take k) st)).2.1

/-- A run, its first operation at the index, that stops behind the first `n` operations: it recorded
these in order and no others, and left the cluster as they do. Either these are all and none failed,
or the last of them failed and no other did. -/
structure Run.StopsBehind (ops : List Operation) (index : Nat) (st : σ) (n : Nat) (run : Run σ) :
    Prop where
  le : n ≤ ops.length
  events : run.events = ((ops.take n).zipIdx index).flatMap fun e => e.1.record r e.2
  state : run.state = clusterAfter api r (ops.take n) st
  ended : (run.failed = none ∧ n = ops.length ∧
      ∀ j < n, outcomeAt api r ops st j = some (.ok ())) ∨
    ∃ k o e, n = k + 1 ∧ ops[k]? = some o ∧ run.failed = some ⟨index + k, o.text, e⟩ ∧
      outcomeAt api r ops st k = some (.error e) ∧
      ∀ j < k, outcomeAt api r ops st j = some (.ok ())

variable {api r} {st : σ} {o : Operation} {ops : List Operation} {index : Nat}

theorem outcomeAt_zero : outcomeAt api r (o :: ops) st 0 = some (o.perform api r st).2.1 :=
  rfl

theorem outcomeAt_succ (k : Nat) : outcomeAt api r (o :: ops) st (k + 1) =
    outcomeAt api r ops (o.perform api r st).2.2 k :=
  rfl

variable (api r) in
/-- An operation makes its calls and no others. -/
theorem perform_fst (o : Operation) (st : σ) : (o.perform api r st).1 = o.calls r := by
  unfold Operation.perform Operation.calls
  cases o.call r with
  | error e => rfl
  | ok call? => cases call? <;> rfl

/-! ### One operation -/

theorem executeFrom_of_error {e : ApiError} (h : (o.perform api r st).2.1 = .error e) :
    executeFrom api r index (o :: ops) st =
      ⟨o.record r index, some ⟨index, o.text, e⟩, (o.perform api r st).2.2⟩ := by
  unfold executeFrom Operation.record
  rw [← perform_fst api r o st]
  dsimp only
  rw [h]

theorem executeFrom_of_ok (h : (o.perform api r st).2.1 = .ok ()) :
    let rest := executeFrom api r (index + 1) ops (o.perform api r st).2.2
    executeFrom api r index (o :: ops) st =
      ⟨o.record r index ++ rest.events, rest.failed, rest.state⟩ := by
  intro rest
  rw [executeFrom]
  unfold Operation.record
  rw [← perform_fst api r o st]
  dsimp only
  rw [h]

/-! ### Several operations -/

namespace Run

theorem StopsBehind.of_error {e : ApiError} (h : (o.perform api r st).2.1 = .error e) :
    StopsBehind api r (o :: ops) index st 1 (executeFrom api r index (o :: ops) st) := by
  rw [executeFrom_of_error h]
  exact {
    le := Nat.succ_le_succ (Nat.zero_le _)
    events := by simp
    state := rfl
    ended := .inr ⟨0, o, e, rfl, rfl, rfl, by rw [outcomeAt_zero, h], nofun⟩ }

/-- An operation that succeeds comes before the others. -/
theorem StopsBehind.of_ok {n : Nat} (h : (o.perform api r st).2.1 = .ok ())
    (hr : StopsBehind api r ops (index + 1) (o.perform api r st).2.2 n
      (executeFrom api r (index + 1) ops (o.perform api r st).2.2)) :
    StopsBehind api r (o :: ops) index st (n + 1) (executeFrom api r index (o :: ops) st) := by
  have hfirst : ∀ {k}, (∀ j < k, outcomeAt api r ops (o.perform api r st).2.2 j = some (.ok ())) →
      ∀ j < k + 1, outcomeAt api r (o :: ops) st j = some (.ok ()) := by
    rintro k hk (_ | j) hj
    · rw [outcomeAt_zero, h]
    · rw [outcomeAt_succ]
      exact hk j (Nat.lt_of_succ_lt_succ hj)
  rw [executeFrom_of_ok h]
  exact {
    le := Nat.succ_le_succ hr.le
    events := by
      rw [List.take_succ_cons, List.zipIdx_cons, List.flatMap_cons, hr.events]
    state := hr.state
    ended := by
      rcases hr.ended with ⟨hf, hn, hj⟩ | ⟨k, o', e, hn, ho, hf, he, hj⟩
      · exact .inl ⟨hf, congrArg (· + 1) hn, hfirst hj⟩
      · refine .inr ⟨k + 1, o', e, congrArg (· + 1) hn, ho, ?_, (outcomeAt_succ k).trans he,
          hfirst hj⟩
        rw [hf, Nat.add_right_comm, Nat.add_assoc] }

variable (api r) in
/-- Every run stops behind some of its operations. -/
theorem exists_stopsBehind : ∀ (ops : List Operation) (index : Nat) (st : σ),
    ∃ n, StopsBehind api r ops index st n (executeFrom api r index ops st)
  | [], _, _ => ⟨0, Nat.le_refl 0, rfl, rfl, .inl ⟨rfl, rfl, nofun⟩⟩
  | o :: ops, index, st => by
    cases h : (o.perform api r st).2.1 with
    | error e => exact ⟨1, .of_error h⟩
    | ok _ =>
      obtain ⟨n, hn⟩ := exists_stopsBehind ops (index + 1) (o.perform api r st).2.2
      exact ⟨n + 1, .of_ok h hn⟩

/-- A run fails just where it performed an operation that failed. -/
theorem StopsBehind.failed_iff {n : Nat} {run : Run σ}
    (h : StopsBehind api r ops index st n run) :
    run.failed ≠ none ↔ ∃ j < n, ∃ e, outcomeAt api r ops st j = some (.error e) := by
  rcases h.ended with ⟨hf, _, hok⟩ | ⟨k, o, e, rfl, _, hf, he, _⟩
  · refine iff_of_false (not_not_intro hf) ?_
    rintro ⟨j, hj, e, he⟩
    rw [hok j hj] at he
    cases he
  · refine iff_of_true ?_ ⟨k, Nat.lt_succ_self k, e, he⟩
    rw [hf]
    exact nofun

end Run

/-! ### Calls -/

section

variable (api : ClusterApi σ) {r : Registry} {o : Operation}

theorem asks_of_call {c : Call} (h : o.call r = .ok (some c)) : o.Asks api r c where
  record_eq index := by
    unfold Operation.record Operation.calls
    rw [h]
    rfl
  perform_eq st := by
    unfold Operation.perform
    rw [h]

theorem asksNothing_of_call {outcome : Except ApiError Unit}
    (h : o.call r = outcome.map fun _ => none) : o.AsksNothing api r outcome where
  record_eq index := by
    unfold Operation.record Operation.calls
    rw [h]
    cases outcome <;> rfl
  perform_eq st := by
    unfold Operation.perform
    rw [h]
    cases outcome <;> rfl

/-- Waiting asks what the vendor is ready by, and fails where no vendor of the kind is registered. -/
theorem asks_waitForVendor (r : Registry) (kind : String) :
    match r.get? kind with
    | none => (Operation.waitForVendor kind).AsksNothing api r
        (.error ⟨"no provider registered for " ++ kind⟩)
    | some v => match v.readiness with
      | none => (Operation.waitForVendor kind).AsksNothing api r (.ok ())
      | some crd => (Operation.waitForVendor kind).Asks api r (.waitForCrd crd) := by
  cases hvendor : r.get? kind with
  | none => exact asksNothing_of_call api (by simp only [Operation.call, hvendor, Except.map])
  | some v =>
    have hcall : (Operation.waitForVendor kind).call r = .ok (v.readiness.map .waitForCrd) := by
      simp only [Operation.call, hvendor]
    dsimp only
    cases hready : v.readiness with
    | none =>
      rw [hready] at hcall
      exact asksNothing_of_call api hcall
    | some crd =>
      rw [hready] at hcall
      exact asks_of_call api hcall

end

/-- **A run performs its plan up to the first operation that fails.** It reports the operations from
the first on in order, each before its call, and stops behind the first that fails or behind the
last. It fails just where an operation it performed failed, with the place, the text and the reason
of that one; the text says what is done and to what. An operation on a namespace, on a node or on a
resource makes the one call of its kind with its own arguments, whose answer is what comes of it.
Waiting for a vendor asks what the vendor is ready by, and fails without a call where no vendor of
the kind is registered; of the vendors that are always there one is ready by its definition, the
other without a call. -/
theorem execute_stops_at_first_failure (p : Plan) (api : ClusterApi σ) (r : Registry) (st : σ) :
    let run := execute p api r st
    (∃ n, run.StopsBehind api r p.operations 0 st n ∧ (run.failed ≠ none ↔
      ∃ j < n, ∃ e, outcomeAt api r p.operations st j = some (.error e))) ∧
    (∀ name labels,
      (Operation.ensureNamespace name labels).Asks api r (.ensureNamespace name labels) ∧
      (Operation.ensureNamespace name labels).text = "ensure namespace " ++ name) ∧
    (∀ node labels, (Operation.labelNode node labels).Asks api r (.labelNode node labels) ∧
      (Operation.labelNode node labels).text = "label node " ++ node) ∧
    (∀ node taint, (Operation.taintNode node taint).Asks api r (.taintNode node taint) ∧
      (Operation.taintNode node taint).text =
        "taint node " ++ node ++ " with " ++ taint.text) ∧
    (∀ payload, (Operation.create payload).Asks api r (.create payload) ∧
      (Operation.create payload).text = "create " ++ payload.describe) ∧
    (∀ kind, (Operation.waitForVendor kind).text = "wait for " ++ kind ++ " API") ∧
    (∀ kind, match r.get? kind with
      | none => (Operation.waitForVendor kind).AsksNothing api r
          (.error ⟨"no provider registered for " ++ kind⟩)
      | some v => match v.readiness with
        | none => (Operation.waitForVendor kind).AsksNothing api r (.ok ())
        | some crd => (Operation.waitForVendor kind).Asks api r (.waitForCrd crd)) ∧
    (Operation.waitForVendor "FlashSystemCluster").Asks api .builtins
      (.waitForCrd "flashsystemclusters.odf.ibm.com") ∧
    (Operation.waitForVendor "StorageCluster").AsksNothing api .builtins (.ok ()) := by
  intro run
  obtain ⟨n, hn⟩ := Run.exists_stopsBehind api r p.operations 0 st
  refine ⟨⟨n, hn, hn.failed_iff⟩, ?_, ?_, ?_, ?_, fun _ => rfl, asks_waitForVendor api r, ?_, ?_⟩
  · exact fun name labels => ⟨asks_of_call api rfl, rfl⟩
  · exact fun node labels => ⟨asks_of_call api rfl, rfl⟩
  · exact fun node taint => ⟨asks_of_call api rfl, rfl⟩
  · exact fun payload => ⟨asks_of_call api rfl, rfl⟩
  · exact asks_waitForVendor api .builtins "FlashSystemCluster"
  · exact asks_waitForVendor api .builtins "StorageCluster"

end StorageSetup
