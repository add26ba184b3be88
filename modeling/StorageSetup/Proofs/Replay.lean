import StorageSetup.Proofs.Plan
import StorageSetup.Replay
/-!
# Walking to the plan

Answers are followed by a loop that goes forward while the last step is not reached. The loop is
written down as a relation beside the function that runs it, so that the number of its moves is
something to prove. A move closes no gate that was passed, so a loop that ends on the last step
leaves all gates open, and then nothing keeps the planner from its plan.

Key definitions: `Session.Walks`, `Session.Passed`.
Key theorems: `Session.exists_walks`, `Session.passed_of_walks`, `replay_ends_behind_open_gates`.
-/

namespace StorageSetup
namespace Session

/-! ### The loop -/

/-- The loop that goes forward while the last step is not reached: the number of its moves, the last
of which may be refused, and how it ends. -/
inductive Walks : Nat → Session → Except NavigationError Session → Prop
  | done {w : Session} : w.isLastStep = true → Walks 0 w (.ok w)
  | refused {w : Session} {e : NavigationError} :
    w.isLastStep = false → w.next = .error e → Walks 1 w (.error e)
  | move {w moved : Session} {step : Step} {n : Nat} {result : Except NavigationError Session} :
    w.isLastStep = false → w.next = .ok (moved, step) → Walks n moved result →
      Walks (n + 1) w result

variable {w : Session}

theorem not_last_iff (w : Session) : w.isLastStep = false ↔ w.current + 1 < w.names.length := by
  rw [Bool.eq_false_iff, Ne, isLastStep_iff]
  omega

/-- Before the last step a move is refused or advances. -/
theorem next_of_not_last (h : w.isLastStep = false) : (∃ e, w.next = .error e) ∨
    (w.next = .ok (w.advance, w.moved.currentStep) ∧ w.check w.currentStep.name = .ok ()) := by
  rcases next_cases (Nat.lt_of_succ_lt ((not_last_iff w).mp h)) with
    ⟨_, he, _⟩ | ⟨_, hl⟩ | ⟨ho, _, hc⟩
  · exact .inl ⟨_, he⟩
  · exact absurd hl (by rw [h]; exact Bool.false_ne_true)
  · exact .inr ⟨ho, hc⟩

/-- The loop ends: each move leaves one step less ahead. -/
theorem exists_walks : ∀ (ahead : Nat) (w : Session), w.InBounds →
    w.names.length - 1 - w.current = ahead → ∃ n result, Walks n w result
  | 0, w, h, ha => by
    unfold InBounds at h
    exact ⟨0, _, .done ((isLastStep_iff w).mpr (by omega))⟩
  | ahead + 1, w, h, ha => by
    have hlt : w.current + 1 < w.names.length := by omega
    have hl : w.isLastStep = false := (not_last_iff w).mpr hlt
    rcases next_of_not_last hl with ⟨e, he⟩ | ⟨ho, _⟩
    · exact ⟨1, _, .refused hl he⟩
    · have hahead : w.advance.names.length - 1 - w.advance.current = ahead := by
        rw [names_advance, current_advance]
        omega
      obtain ⟨n, result, hw⟩ := exists_walks ahead w.advance (inBounds_advance hlt) hahead
      exact ⟨n + 1, result, .move hl ho hw⟩

/-- A move before the last step that is not refused is an advance. -/
theorem eq_advance_of_next {moved : Session} {step : Step} (h : w.isLastStep = false)
    (hn : w.next = .ok (moved, step)) :
    moved = w.advance ∧ w.check w.currentStep.name = .ok () := by
  rcases eq_of_next (Nat.lt_of_succ_lt ((not_last_iff w).mp h)) hn with ⟨_, hl⟩ | ⟨he, _, hc⟩
  · rw [h] at hl
    cases hl
  · exact ⟨he, hc⟩

/-- The loop moves no more often than there are steps ahead. -/
theorem Walks.moves_le {n : Nat} {result : Except NavigationError Session} (hw : Walks n w result) :
    n ≤ w.names.length - 1 - w.current := by
  induction hw with
  | done _ => exact Nat.zero_le _
  | refused hl _ =>
    have hlt := (not_last_iff _).mp hl
    omega
  | move hl hn _ ih =>
    have hlt := (not_last_iff _).mp hl
    obtain ⟨rfl, _⟩ := eq_advance_of_next hl hn
    rw [names_advance, current_advance] at ih
    omega

/-- The bounded walk is the loop: its bound is never met before the loop ends. -/
theorem Walks.walk_eq {n : Nat} {result : Except NavigationError Session} (hw : Walks n w result) :
    ∀ bound, n ≤ bound → w.walk bound = result := by
  induction hw with
  | done hl =>
    intro bound _
    cases bound with
    | zero => rfl
    | succ bound => rw [walk, if_pos hl]
  | refused hl hn =>
    intro bound hb
    obtain ⟨bound, rfl⟩ : ∃ b, bound = b + 1 := ⟨bound - 1, by omega⟩
    rw [walk, if_neg (by rw [hl]; exact Bool.false_ne_true), hn]
  | move hl hn _ ih =>
    intro bound hb
    obtain ⟨bound, rfl⟩ : ∃ b, bound = b + 1 := ⟨bound - 1, by omega⟩
    rw [walk, if_neg (by rw [hl]; exact Bool.false_ne_true), hn]
    exact ih bound (by omega)

theorem Walks.walkToEnd_eq {n : Nat} {result : Except NavigationError Session}
    (hw : Walks n w result) : w.walkToEnd = result := by
  have hle := hw.moves_le
  refine hw.walk_eq _ ?_
  rw [length_steps]
  omega

/-! ### What the loop has passed -/

/-- The gates behind the session are open, and on local devices the class is that of the volume set
once its step is behind. -/
structure Passed (w : Session) : Prop where
  inBounds : w.InBounds
  behind : ∀ n ∈ w.names.take w.current, w.check n = .ok ()
  volumeClass : w.state.backingStorage.type = .localDevices → 1 < w.current →
    w.state.storageClass = ⟨w.state.localVolumes.name, noProvisioner⟩

theorem passed_of_start (h : w.current = 0) : w.Passed where
  inBounds := inBounds_of_start h
  behind n hn := by
    rw [h] at hn
    cases hn
  volumeClass _ h1 := by omega

/-- An advance keeps what was passed and passes the step it leaves. -/
theorem Passed.advance (hw : w.Passed) (hl : w.current + 1 < w.names.length)
    (hc : w.check w.currentStep.name = .ok ()) : w.advance.Passed where
  inBounds := inBounds_advance hl
  behind n hn := by
    rcases (mem_behind_advance_iff hw.inBounds).mp hn with hn | rfl
    · exact check_advance hw.inBounds (List.mem_of_mem_take hn) (hw.behind n hn)
    · exact check_advance hw.inBounds (name_currentStep_mem hw.inBounds) hc
  volumeClass ht h1 := by
    rw [backingStorage_advance] at ht
    rw [current_advance] at h1
    show w.leftState.storageClass = ⟨w.leftState.localVolumes.name, noProvisioner⟩
    by_cases hv : w.current = 1
    · rw [leftState_eq_of_volumeSet hw.inBounds ht hv]
      rfl
    · rw [leftState_eq_of_not hw.inBounds fun h => hv h.2]
      exact hw.volumeClass ht (by omega)

theorem passed_of_walks {n : Nat} {result : Except NavigationError Session}
    (hw : Walks n w result) (hp : w.Passed) : ∀ walked, result = .ok walked →
      walked.Passed ∧ walked.isLastStep = true ∧ walked.context = w.context ∧
        walked.registry = w.registry := by
  induction hw with
  | done hl =>
    rintro walked ⟨⟩
    exact ⟨hp, hl, rfl, rfl⟩
  | refused _ _ =>
    rintro walked ⟨⟩
  | move hl hn _ ih =>
    obtain ⟨rfl, hc⟩ := eq_advance_of_next hl hn
    exact ih (hp.advance ((not_last_iff _).mp hl) hc)

/-- On the last step every gate has been passed. -/
theorem Passed.all_open (hw : w.Passed) (hl : w.isLastStep = true) :
    ∀ n ∈ w.names, w.check n = .ok () := by
  intro n hn
  rcases mem_names_of_last hw.inBounds hl hn with hn | rfl
  · exact hw.behind n hn
  · rfl

/-- On local devices the last step lies behind the volume set. -/
theorem Passed.volumeClass_of_last (hw : w.Passed) (hl : w.isLastStep = true)
    (ht : w.state.backingStorage.type = .localDevices) :
    w.state.storageClass = ⟨w.state.localVolumes.name, noProvisioner⟩ := by
  refine hw.volumeClass ht ?_
  have hle : w.names.length ≤ w.current + 1 := (isLastStep_iff w).mp hl
  have h3 : 3 < w.names.length := three_lt_length_names ht
  omega

/-- The class of a local volume set has a name where its gate was passed. -/
theorem Passed.className_ne_empty (hw : w.Passed) (hl : w.isLastStep = true)
    (ht : w.state.backingStorage.type = .localDevices) : w.state.storageClass.name ≠ "" := by
  have hv : w.check .createLocalVolumeSet = .ok () :=
    hw.all_open hl _ (volumeSet_mem_stepNames _ _ ht)
  have hs := (Gate.localVolumeSet_eq_ok_iff.mp (checkBoth_eq_ok_iff.mp hv).1).1
  have hb := (Gate.volumeSettings_eq_ok_iff.mp hs).1
  rw [hw.volumeClass_of_last hl ht]
  intro he
  rw [show w.state.localVolumes.name = "" from he] at hb
  exact absurd hb (by decide)

/-! ### The answered session -/

variable {c : Context} {r : Registry}

theorem AtStart.followDisks (h : w.AtStart c r) (i : Inventory) :
    (w.followDisks i).AtStart c r := by
  unfold Session.followDisks
  split_ifs
  · exact (h.dispatch _).dispatch _
  · exact h

theorem AtStart.chooseNodes (h : w.AtStart c r) (named : List Node) (i : Inventory) :
    (w.chooseNodes named i).AtStart c r := by
  unfold Session.chooseNodes
  dsimp only
  generalize (if named.isEmpty && w.usesLocalDevices then w.chartNodes i else named) = nodes
  split_ifs
  · exact h
  · exact h.dispatch _

/-- Answers that decode and name known nodes make a session on the first step. -/
theorem answer_of_decoded {a : Answers} {i : Inventory} {actions : List Action} {named : List Node}
    (ha : a.decodeActions = .ok actions) (hn : a.resolveNodes i.nodes = .ok named) :
    w.answer a i = .ok (((w.dispatchAll actions).followDisks i).chooseNodes named i) := by
  unfold answer
  rw [ha, hn]
  rfl

/-- What an answered session was made of. -/
theorem answer_eq_ok {a : Answers} {i : Inventory} {answered : Session}
    (h : w.answer a i = .ok answered) : ∃ actions named,
    answered = ((w.dispatchAll actions).followDisks i).chooseNodes named i := by
  unfold answer at h
  obtain ⟨actions, _, h⟩ := bind_eq_ok_iff.mp h
  obtain ⟨named, _, h⟩ := bind_eq_ok_iff.mp h
  exact ⟨actions, named, (Except.ok.inj h).symm⟩

theorem AtStart.answer {a : Answers} {i : Inventory} {answered : Session} (hw : w.AtStart c r)
    (h : w.answer a i = .ok answered) : answered.AtStart c r := by
  obtain ⟨actions, named, rfl⟩ := answer_eq_ok h
  exact ((AtStart.dispatchAll actions hw).followDisks i).chooseNodes named i

end Session

open Session

theorem replay_of_answer {w answered : Session} {a : Answers} {i : Inventory} (config : Config)
    (h : w.answer a i = .ok answered) : replay w a i config =
      (answered.walkToEnd.mapError .step >>= fun walked =>
        (planSubmission walked.state walked.context walked.registry config).mapError .plan >>=
          fun plan => .ok (walked, plan)) := by
  unfold replay
  rw [h]
  rfl

/-- A successful walk is a loop that has passed every gate. -/
theorem passed_of_walkToEnd {w walked : Session} (hp : w.Passed) (h : w.walkToEnd = .ok walked) :
    walked.Passed ∧ walked.isLastStep = true ∧ walked.context = w.context ∧
      walked.registry = w.registry := by
  obtain ⟨n, result, hw⟩ := exists_walks _ w hp.inBounds rfl
  exact passed_of_walks hw hp walked (hw.walkToEnd_eq.symm.trans h)

/-- What a plan of answers was made from. -/
theorem passed_of_replay {c : Context} {r : Registry} {a : Answers} {i : Inventory}
    {config : Config} {w : Session} {plan : Plan}
    (h : replay (.new c r) a i config = .ok (w, plan)) : w.Passed ∧ w.isLastStep = true ∧
      w.context = c ∧ w.registry = r ∧ planSubmission w.state c r config = .ok plan := by
  unfold replay at h
  obtain ⟨answered, hanswer, h⟩ := bind_eq_ok_iff.mp h
  obtain ⟨walked, hwalk, h⟩ := bind_eq_ok_iff.mp h
  obtain ⟨plan', hplan, h⟩ := bind_eq_ok_iff.mp h
  obtain ⟨rfl, rfl⟩ := Prod.mk.inj (Except.ok.inj h)
  have hstart := (atStart_new c r).answer hanswer
  obtain ⟨hp, hl, hcontext, hregistry⟩ :=
    passed_of_walkToEnd (passed_of_start hstart.current) (ok_of_mapError hwalk)
  rw [hstart.context] at hcontext
  rw [hstart.registry] at hregistry
  refine ⟨hp, hl, hcontext, hregistry, ?_⟩
  rw [← hcontext, ← hregistry]
  exact ok_of_mapError hplan

/-- **A walk with answers ends, and where no gate refuses it all gates are open and the planner has
a plan.** The loop makes at most one move for each step behind the first. -/
theorem replay_ends_behind_open_gates (r : Registry) (hr : r = .builtins ∨ r = .empty) (c : Context)
    (a : Answers) (i : Inventory) (config : Config) {actions : List Action} {named : List Node}
    (ha : a.decodeActions = .ok actions) (hn : a.resolveNodes i.nodes = .ok named) :
    ∃ answered, (Session.new c r).answer a i = .ok answered ∧
      (∃ n result, Walks n answered result) ∧
      ∀ n result, Walks n answered result → n ≤ answered.steps.length - 1 ∧
        match result with
        | .error e =>
          replay (.new c r) a i config = .error (.step e)
        | .ok walked =>
          (∀ step ∈ computeSteps walked.state c r, checkStep step.name walked.state r = .ok () ∧
            checkCluster step.name walked.state c r = .ok ()) ∧
          ∃ plan, planSubmission walked.state c r config = .ok plan ∧
            replay (.new c r) a i config = .ok (walked, plan) := by
  have hsound : r.Sound := by
    rcases hr with rfl | rfl
    · exact Registry.builtins_sound
    · exact Registry.empty_sound
  have hanswer := answer_of_decoded (w := .new c r) ha hn
  have hstart := (atStart_new c r).answer hanswer
  have hpassed := passed_of_start hstart.current
  refine ⟨_, hanswer, exists_walks _ _ hpassed.inBounds rfl, fun n result hw => ⟨?_, ?_⟩⟩
  · have hle := hw.moves_le
    rw [length_steps]
    omega
  · have hreplay := replay_of_answer config hanswer
    rw [hw.walkToEnd_eq] at hreplay
    cases result with
    | error e => exact hreplay
    | ok walked =>
      obtain ⟨hp, hl, hcontext, hregistry⟩ := passed_of_walks hw hpassed walked rfl
      rw [hstart.context] at hcontext
      rw [hstart.registry] at hregistry
      have hopen : ∀ n ∈ stepNames walked.state c r, checkBoth n walked.state c r = .ok () := by
        have h := hp.all_open hl
        unfold names Session.check at h
        rwa [hcontext, hregistry] at h
      obtain ⟨plan, hplan⟩ := planSubmission_of_open config hsound hopen
        (hp.className_ne_empty hl)
      refine ⟨fun step hstep => checkBoth_eq_ok_iff.mp (hopen _ ?_), plan, hplan, ?_⟩
      · rw [← map_name_computeSteps]
        exact List.mem_map_of_mem hstep
      · rw [hreplay]
        show ((planSubmission walked.state walked.context walked.registry config).mapError
          ReplayError.plan >>= _) = _
        rw [hcontext, hregistry, hplan]
        rfl

/-! ### A run on local devices -/

/-- Answers for the object gateway alone on local devices. -/
def Answers.localGateway (volumeSetName : String) : Answers where
  actions := [Action.setBackingType .localDevices, .setDeployment .mcg,
    .setLocalVolumes (.name volumeSetName)].map Action.toJson

/-- Three nodes with a disk each. -/
def Inventory.threeDisks : Inventory where
  nodes := ["n1", "n2", "n3"].map fun n => { name := n }
  devices := ["n1", "n2", "n3"].map fun n =>
    { node := n, path := "/dev/sda", deviceType := "disk", size := 1099511627776,
      status := "Available" }

theorem replay_ends_behind_open_gates_threeDisks :
    (replay (.new {} .builtins) (.localGateway "localblock") .threeDisks {}).isOk = true ∧
    ∃ answered, (Session.new {} .builtins).answer (.localGateway "localblock") .threeDisks =
        .ok answered ∧
      (∃ n result, Walks n answered result) ∧
      ∀ n result, Walks n answered result → n ≤ answered.steps.length - 1 ∧
        match result with
        | .error e =>
          replay (.new {} .builtins) (.localGateway "localblock") .threeDisks {} =
            .error (.step e)
        | .ok walked =>
          (∀ step ∈ computeSteps walked.state {} .builtins,
            checkStep step.name walked.state .builtins = .ok () ∧
            checkCluster step.name walked.state {} .builtins = .ok ()) ∧
          ∃ plan, planSubmission walked.state {} .builtins {} = .ok plan ∧
            replay (.new {} .builtins) (.localGateway "localblock") .threeDisks {} =
              .ok (walked, plan) :=
  ⟨by decide, replay_ends_behind_open_gates .builtins (.inl rfl) {} (.localGateway "localblock")
    .threeDisks {} rfl rfl⟩

end StorageSetup
