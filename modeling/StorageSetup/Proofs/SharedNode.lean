import Mathlib.Logic.Function.Basic
import StorageSetup.Proofs.Histories
import StorageSetup.Proofs.VersionedServer
/-!
# A node that several clients taint

A taint is added in two requests to a server with versions: the node is read, and then its taints
are replaced by those that were read with one more behind them. Between the two another client may
do the same. What is left is what the last writer read and its own taint, so a taint is lost exactly
where a client wrote between the reading and the writing of another one. A patch that names the
version that was read is refused where that happened. The patch of this client names none.

Key definitions: `Tainter`, `SharedNode`, `SharedNode.Accounted`.
Key theorems: `Tainter.twice_eq_taintNode`, `SharedNode.Accounted.step`,
`SharedNode.accounted_run`, `taints_kept_iff_inOrder`.
-/

namespace StorageSetup

/-! ### Clients -/

/-- A client that adds a taint to a node. -/
structure Tainter where
  taint : Taint
  /-- Its patch names the version that it read. -/
  guarded : Bool

/-- How far a client is. -/
inductive Progress where
  | reading
  /-- The node was read; the taints are to be written for the named version, or for any. -/
  | writing (named : Option String) (taints : List NodeTaint)
  | done (result : Except ApiError Unit)

namespace Progress

/-- The next request. -/
def request? (name : String) : Progress → Option Request
  | reading => some (readOf name)
  | writing named taints => some (patchOf name named taints)
  | done _ => none

def succeeded : Progress → Bool
  | done (.ok _) => true
  | _ => false

end Progress

namespace Tainter

/-- What a client makes of an answer. -/
def receive (t : Tainter) (answer : Except RequestError Json) : Progress → Progress
  | .reading =>
    match answer with
    | .error e => .done (.error e.toApiError)
    | .ok object =>
      match NodeObject.decode .direct object with
      | .error e => .done (.error (RequestError.malformed e).toApiError)
      | .ok node =>
        match withTaint node.taints t.taint with
        | none => .done (.ok ())
        | some taints => .writing (if t.guarded then object.version? else none) taints
  | .writing _ _ => .done ((answer.mapError RequestError.toApiError).map fun _ => ())
  | .done result => .done result

/-- The next request of a client, to a server of any kind. -/
def step {σ : Type} (t : Tainter) (send : σ → Request → Except RequestError Json × σ)
    (name : String) (p : Progress × σ) : Progress × σ :=
  match p.1.request? name with
  | none => p
  | some r => (t.receive (send p.2 r).1 p.1, (send p.2 r).2)

/-- **The client that names no version adds its taint with two requests.** -/
theorem twice_eq_taintNode {σ : Type} [ApiServer σ] (c : Connection σ) (name : String)
    (taint : Taint) :
    let step := (Tainter.mk taint false).step Connection.send name
    step (step (.reading, c)) = (.done (c.taintNode name taint).1, (c.taintNode name taint).2) := by
  intro step
  have hsubmit (c : Connection σ) (named : Option String) (taints : List NodeTaint) :
      step (.writing named taints, c) = (.done (c.submit (patchOf name named taints)).1,
        (c.submit (patchOf name named taints)).2) := rfl
  rcases hread : c.send (readOf name) with ⟨answer, c'⟩
  have hstep : step (.reading, c) = ((Tainter.mk taint false).receive answer .reading, c') := by
    show ((Tainter.mk taint false).receive (c.send _).1 .reading, (c.send _).2) = _
    rw [hread]
  rw [hstep]
  unfold Connection.taintNode
  dsimp only
  rw [show c.send { method := .get, target := { model := .node, name := some name } } =
    (answer, c') from hread]
  cases answer with
  | error e => rfl
  | ok object =>
    simp only [receive]
    cases NodeObject.decode .direct object with
    | error e => rfl
    | ok node =>
      dsimp only
      cases withTaint node.taints taint with
      | none => rfl
      | some taints => exact hsubmit c' none taints

/-! ### One request -/

variable {σ : Type} [ObjectServer σ]

/-- How far a client is that has read the node. -/
inductive HasRead (t : Tainter) (v : VersionedServer σ) (name : String) : Progress → Prop where
  | failed (e : ApiError) : t.HasRead v name (.done (.error e))
  | carried (hcarries : Carries (v.taints name) t.taint) : t.HasRead v name (.done (.ok ()))
  | drafted {o : Json} {taints : List NodeTaint} (hnode : v.node? name = some o)
      (hcarries : ¬ Carries (v.taints name) t.taint)
      (htaints : taints.map NodeTaint.toTaint = v.taints name ++ [t.taint]) :
      t.HasRead v name (.writing (if t.guarded then o.version? else none) taints)

/-- A client that reads ends, or has the taints that it read and its own one to write. -/
theorem step_reading (t : Tainter) (v : VersionedServer σ) (name : String) : ∃ p,
    t.step VersionedServer.send name (.reading, v) = (p, v) ∧ t.HasRead v name p := by
  obtain ⟨answer, hsend, hnode⟩ := v.send_readOf name
  have hstep : t.step VersionedServer.send name (.reading, v) = (t.receive answer .reading, v) := by
    show (t.receive (v.send _).1 .reading, (v.send _).2) = _
    rw [hsend]
  refine ⟨_, hstep, ?_⟩
  cases answer with
  | error e => exact .failed _
  | ok o =>
    have hnode := hnode o rfl
    have htaints : v.taints name = o.taints := by
      unfold VersionedServer.taints
      rw [hnode]
      rfl
    simp only [receive]
    cases hdecode : NodeObject.decode .direct o with
    | error e => exact .failed _
    | ok node =>
      dsimp only
      rw [← NodeObject.taints_of_decode hdecode] at htaints
      rcases withTaint_cases node.taints t.taint with ⟨hcarries, hwith⟩ | ⟨hcarries, hwith⟩
      · rw [hwith]
        exact .carried (htaints ▸ hcarries)
      · rw [hwith]
        refine .drafted hnode (htaints ▸ hcarries) ?_
        rw [htaints, List.map_append, List.map_singleton, NodeTaint.toTaint_ofTaint]

/-- A client that writes fails and changes nothing, or leaves the taints that it has to write. -/
theorem step_writing (t : Tainter) (v : VersionedServer σ) (name : String) (named : Option String)
    (taints : List NodeTaint) :
    (∃ e, t.step VersionedServer.send name (.writing named taints, v) = (.done (.error e), v)) ∨
      ∃ server, v.Written name named taints server ∧
        t.step VersionedServer.send name (.writing named taints, v) =
          (.done (.ok ()), v.next server) := by
  have hstep : t.step VersionedServer.send name (.writing named taints, v) =
      (t.receive (v.send (patchOf name named taints)).1 (.writing named taints),
        (v.send (patchOf name named taints)).2) := rfl
  rw [hstep]
  rcases v.send_patchOf name named taints with ⟨e, he⟩ | ⟨object, server, hwritten, hsend⟩
  · rw [he]
    exact .inl ⟨_, rfl⟩
  · rw [hsend]
    exact .inr ⟨server, hwritten, rfl⟩

end Tainter

/-! ### Many clients -/

/-- A node with the clients that taint it. -/
structure SharedNode (ι σ : Type) where
  server : VersionedServer σ
  progress : ι → Progress
  /-- What was done at the node, the last access first. -/
  history : List (Access ι) := []

/-- The access that takes a client from one progress to another. -/
def Access.between? {ι : Type} (i : ι) : Progress → Progress → Option (Access ι)
  | .reading, _ => some (.read i)
  | .writing _ _, .done (.ok _) => some (.wrote i)
  | _, _ => none

namespace SharedNode

variable {ι σ : Type} [DecidableEq ι] [ObjectServer σ]

/-- No client has begun. -/
def start (v : VersionedServer σ) : SharedNode ι σ where
  server := v
  progress _ := .reading

/-- The next request of a client. -/
def step (clients : ι → Tainter) (name : String) (s : SharedNode ι σ) (i : ι) : SharedNode ι σ :=
  let after := (clients i).step VersionedServer.send name (s.progress i, s.server)
  { server := after.2
    progress := Function.update s.progress i after.1
    history := (Access.between? i (s.progress i) after.1).toList ++ s.history }

/-- The requests of the clients in the order of the schedule. -/
def run (clients : ι → Tainter) (name : String) (s : SharedNode ι σ) (schedule : List ι) :
    SharedNode ι σ :=
  schedule.foldl (step clients name) s

/-- What a client has to write: what it read and its own taint. -/
structure Drafted (clients : ι → Tainter) (before : List Taint) (v : VersionedServer σ)
    (h : List (Access ι)) (i : ι) (named : Option String) (taints : List NodeTaint) : Prop where
  taints_eq : taints.map NodeTaint.toTaint =
    before ++ (survivors (atReading i h)).map (fun j => (clients j).taint) ++ [(clients i).taint]
  missing : ¬ Carries before (clients i).taint
  /-- A version that is named is the present one only where nothing was written since. -/
  named_eq : (clients i).guarded = true → ∃ n ≤ v.revision, named = some (v.version n) ∧
    (n = v.revision → Fresh i h)

/-- How a client stands to the history. -/
structure Account (clients : ι → Tainter) (before : List Taint) (v : VersionedServer σ)
    (h : List (Access ι)) (i : ι) (p : Progress) : Prop where
  written : .wrote i ∈ h → p.succeeded = true ∧ ¬ Carries before (clients i).taint
  succeeded : p.succeeded = true → .wrote i ∈ h ∨ Carries before (clients i).taint
  drafted : ∀ named taints, p = .writing named taints →
    Drafted clients before v h i named taints
  guarded : (clients i).guarded = true → InOrder i h

/-- The node carries what it carried before and the taints of the survivors. -/
structure Accounted (clients : ι → Tainter) (name : String) (before : List Taint)
    (s : SharedNode ι σ) : Prop where
  stamped : s.server.Stamped name
  taints_eq : s.server.taints name =
    before ++ (survivors s.history).map fun i => (clients i).taint
  once : Once s.history
  accounts : ∀ i, Account clients before s.server s.history i (s.progress i)

variable {clients : ι → Tainter} {name : String} {before : List Taint} {s : SharedNode ι σ} {i : ι}

theorem step_of_done {result : Except ApiError Unit} (hp : s.progress i = .done result) :
    s.step clients name i = s := by
  have hstep : (clients i).step VersionedServer.send name (s.progress i, s.server) =
      (s.progress i, s.server) := by
    rw [hp]
    rfl
  unfold step
  rw [hstep, hp]
  show SharedNode.mk s.server (Function.update s.progress i (.done result)) s.history = s
  rw [← hp, Function.update_eq_self]

theorem step_of_reading (clients : ι → Tainter) (name : String)
    (hp : s.progress i = .reading) : ∃ p,
    s.step clients name i = ⟨s.server, Function.update s.progress i p, .read i :: s.history⟩ ∧
      (clients i).HasRead s.server name p := by
  obtain ⟨p, hstep, hread⟩ := (clients i).step_reading s.server name
  refine ⟨p, ?_, hread⟩
  unfold step
  rw [hp, hstep]
  rfl

theorem step_of_writing (clients : ι → Tainter) (name : String)
    {named : Option String} {taints : List NodeTaint}
    (hp : s.progress i = .writing named taints) :
    (∃ e, s.step clients name i =
      ⟨s.server, Function.update s.progress i (.done (.error e)), s.history⟩) ∨
    ∃ server, s.server.Written name named taints server ∧
      s.step clients name i = ⟨s.server.next server,
        Function.update s.progress i (.done (.ok ())), .wrote i :: s.history⟩ := by
  unfold step
  rw [hp]
  rcases (clients i).step_writing s.server name named taints with
    ⟨e, hstep⟩ | ⟨server, hwritten, hstep⟩
  · rw [hstep]
    exact .inl ⟨e, rfl⟩
  · rw [hstep]
    exact .inr ⟨server, hwritten, rfl⟩

theorem accounted_start {v : VersionedServer σ} (hv : v.Stamped name) :
    Accounted clients name (v.taints name) (start v) where
  stamped := hv
  taints_eq := by
    show _ = _ ++ (survivors []).map _
    rw [survivors_nil, List.map_nil, List.append_nil]
    rfl
  once i earlier he := by cases List.suffix_nil.mp he
  accounts i :=
    { written := fun hi => absurd hi List.not_mem_nil
      succeeded := fun hs => by cases hs
      drafted := fun _ _ hd => by cases hd
      guarded := fun _ _ he => by cases List.suffix_nil.mp he }

/-! ### What a request preserves -/

namespace Account

omit [ObjectServer σ]

variable {v : VersionedServer σ} {h : List (Access ι)} {p : Progress}

/-- A client that is not done has not written. -/
theorem not_mem_of_not_succeeded (ha : Account clients before v h i p)
    (hp : p.succeeded = false) : .wrote i ∉ h :=
  fun hi => absurd ((ha.written hi).1.symm.trans hp) (by decide)

theorem failed (ha : Account clients before v h i p) (hp : p.succeeded = false)
    (e : ApiError) : Account clients before v h i (.done (.error e)) where
  written hi := absurd hi (ha.not_mem_of_not_succeeded hp)
  succeeded hs := by cases hs
  drafted _ _ hd := by cases hd
  guarded := ha.guarded

/-- A reading of another client leaves a client where it stands. -/
theorem read_of_ne {k : ι} (ha : Account clients before v h k p) (hk : k ≠ i) :
    Account clients before v (.read i :: h) k p where
  written hw := ha.written (by simpa using hw)
  succeeded hs := (ha.succeeded hs).imp_left (List.mem_cons_of_mem _)
  drafted named taints hp := by
    have hread : Access.read i ≠ .read k := by simpa using hk.symm
    obtain ⟨htaints, hmissing, hnamed⟩ := ha.drafted named taints hp
    refine ⟨by rwa [atReading_cons_of_ne hread], hmissing, fun hg => ?_⟩
    obtain ⟨n, hn, hname, hfresh⟩ := hnamed hg
    refine ⟨n, hn, hname, fun he => (fresh_cons_of_ne hread).mpr ⟨by simp, hfresh he⟩⟩
  guarded hg := (inOrder_cons_of_ne (by simp)).mpr (ha.guarded hg)

/-- A writing of another client makes the version that a client has read a past one. -/
theorem wrote_of_ne {k : ι} (ha : Account clients before v h k p) (hk : k ≠ i)
    (server : σ) :
    Account clients before (v.next server) (.wrote i :: h) k p where
  written hw := ha.written (by simpa [hk] using hw)
  succeeded hs := (ha.succeeded hs).imp_left (List.mem_cons_of_mem _)
  drafted named taints hp := by
    obtain ⟨htaints, hmissing, hnamed⟩ := ha.drafted named taints hp
    refine ⟨by rwa [atReading_cons_of_ne (by simp)], hmissing, fun hg => ?_⟩
    obtain ⟨n, hn, hname, _⟩ := hnamed hg
    exact ⟨n, Nat.le_succ_of_le hn, hname, fun he => absurd (he ▸ hn) (Nat.not_succ_le_self _)⟩
  guarded hg := (inOrder_cons_of_ne (by simpa using hk.symm)).mpr (ha.guarded hg)

end Account

namespace Accounted

/-- A mark that the node carries was there before or is that of a survivor. -/
theorem carries_iff (h : Accounted clients name before s)
    (hdistinct : ∀ i j, i ≠ j → ¬ (clients i).taint.Same (clients j).taint) :
    Carries (s.server.taints name) (clients i).taint ↔
      Carries before (clients i).taint ∨ i ∈ survivors s.history := by
  rw [h.taints_eq, carries_append]
  refine or_congr Iff.rfl ⟨?_, fun hi => ⟨_, List.mem_map_of_mem hi, rfl, rfl⟩⟩
  rintro ⟨t, ht, hsame⟩
  obtain ⟨j, hj, rfl⟩ := List.mem_map.mp ht
  by_contra hi
  exact hdistinct j i (fun he => hi (he ▸ hj)) hsame

/-- The account of a client behind its reading. -/
theorem account_read (h : Accounted clients name before s)
    (hdistinct : ∀ i j, i ≠ j → ¬ (clients i).taint.Same (clients j).taint)
    (hp : s.progress i = .reading) {p : Progress} (hread : (clients i).HasRead s.server name p) :
    Account clients before s.server (.read i :: s.history) i p := by
  have hunwritten : .wrote i ∉ s.history :=
    (h.accounts i).not_mem_of_not_succeeded (by rw [hp]; rfl)
  have hguarded (hg : (clients i).guarded = true) : InOrder i (.read i :: s.history) :=
    (inOrder_cons_of_ne (by simp)).mpr ((h.accounts i).guarded hg)
  have hwritten : .wrote i ∉ Access.read i :: s.history := by simpa using hunwritten
  cases hread with
  | failed e =>
    exact ⟨fun hi => absurd hi hwritten, fun hs => (by cases hs), fun _ _ hd => (by cases hd),
      hguarded⟩
  | carried hcarries =>
    -- The client has not written, so it is no survivor: its mark was there before all of them.
    have hbefore : Carries before (clients i).taint :=
      ((h.carries_iff hdistinct).mp hcarries).resolve_right fun hs =>
        hunwritten (mem_of_mem_survivors hs)
    exact ⟨fun hi => absurd hi hwritten, fun _ => .inr hbefore, fun _ _ hd => (by cases hd),
      hguarded⟩
  | @drafted o taints hnode hcarries htaints =>
    refine ⟨fun hi => absurd hi hwritten, fun hs => (by cases hs), fun _ _ hd => ?_, hguarded⟩
    cases hd
    refine ⟨?_, fun hb => hcarries ((h.carries_iff hdistinct).mpr (.inl hb)), fun hg => ?_⟩
    · rw [htaints, h.taints_eq, atReading_read, survivors_read]
    · rw [if_pos hg]
      exact ⟨_, Nat.le_refl _, h.stamped o hnode, fun _ => fresh_read i _⟩

/-- The account of a client behind its writing. -/
theorem account_wrote (h : Accounted clients name before s) {named : Option String}
    {taints : List NodeTaint} (hp : s.progress i = .writing named taints) {server : σ}
    (hw : s.server.Written name named taints server) :
    Account clients before (s.server.next server) (.wrote i :: s.history) i (.done (.ok ())) where
  written _ := ⟨rfl, ((h.accounts i).drafted named taints hp).missing⟩
  succeeded _ := .inl List.mem_cons_self
  drafted _ _ hd := by cases hd
  guarded hg := by
    -- The version that the patch names is the present one, so nothing was written since.
    obtain ⟨n, _, rfl, hfresh⟩ := ((h.accounts i).drafted named taints hp).named_eq hg
    obtain ⟨o, hnode, hnamed⟩ := hw.found
    have hversion : some (s.server.version n) = some (s.server.version s.server.revision) :=
      (hnamed _ rfl).symm.trans (h.stamped o hnode)
    have hn : n = s.server.revision := s.server.version_injective (Option.some.inj hversion)
    exact inOrder_wrote.mpr ⟨hfresh hn, (h.accounts i).guarded hg⟩

/-- **A request of a client keeps the account.** -/
theorem step (h : Accounted clients name before s)
    (hdistinct : ∀ i j, i ≠ j → ¬ (clients i).taint.Same (clients j).taint) (i : ι) :
    Accounted clients name before (s.step clients name i) := by
  cases hp : s.progress i with
  | done result => rwa [step_of_done hp]
  | reading =>
    obtain ⟨p, hstep, hread⟩ := step_of_reading clients name hp
    rw [hstep]
    refine ⟨h.stamped, ?_, ?_, ?_⟩
    · rw [survivors_read]
      exact h.taints_eq
    · exact once_cons h.once fun _ hk => by cases hk
    · refine (Function.forall_update_iff _ _).mpr ⟨?_, fun k hk => ?_⟩
      · exact h.account_read hdistinct hp hread
      · exact (h.accounts k).read_of_ne hk
  | writing named taints =>
    have hunfinished : (s.progress i).succeeded = false := by
      rw [hp]
      rfl
    rcases step_of_writing clients name hp with ⟨e, hstep⟩ | ⟨server, hw, hstep⟩
    · rw [hstep]
      refine ⟨h.stamped, h.taints_eq, h.once, (Function.forall_update_iff _ _).mpr ⟨?_, ?_⟩⟩
      · exact (h.accounts i).failed hunfinished e
      · exact fun k _ => h.accounts k
    · rw [hstep]
      refine ⟨hw.stamped, ?_, once_cons h.once fun _ _ => ?_, ?_⟩
      · rw [hw.taints_eq, ((h.accounts i).drafted named taints hp).taints_eq, survivors_wrote,
          List.map_append, List.append_assoc]
        rfl
      · exact (h.accounts i).not_mem_of_not_succeeded hunfinished
      · refine (Function.forall_update_iff _ _).mpr ⟨?_, fun k hk => ?_⟩
        · exact h.account_wrote hp hw
        · exact (h.accounts k).wrote_of_ne hk server

end Accounted

/-- **At all times the node carries what it carried before and the taints of the survivors.** -/
theorem accounted_run (hdistinct : ∀ i j, i ≠ j → ¬ (clients i).taint.Same (clients j).taint) :
    ∀ (schedule : List ι) {s : SharedNode ι σ}, Accounted clients name before s →
      Accounted clients name before (s.run clients name schedule)
  | [], _, h => h
  | i :: schedule, _, h => accounted_run hdistinct schedule (h.step hdistinct i)

end SharedNode

open SharedNode

/-- **Which taints are left on a node that several clients taint.** The client of this program adds
its taint in two requests and names no version. In every order of the requests of any clients the
node carries what it carried before and the taints of the survivors. Every client that has succeeded
finds its taint there exactly where nobody wrote between the reading and the writing of a client, and
that is so for a client that names the version that it read. -/
theorem taints_kept_iff_inOrder {ι σ : Type} [DecidableEq ι] [ObjectServer σ]
    (clients : ι → Tainter)
    (hdistinct : ∀ i j, i ≠ j → ¬ (clients i).taint.Same (clients j).taint)
    (v : VersionedServer σ) (name : String) (hv : v.Stamped name) (schedule : List ι) :
    (∀ (c : Connection σ) (taint : Taint),
      let step := (Tainter.mk taint false).step Connection.send name
      step (step (.reading, c)) =
        (.done (c.taintNode name taint).1, (c.taintNode name taint).2)) ∧
    let s := (start v).run clients name schedule
    s.server.taints name =
      v.taints name ++ (survivors s.history).map (fun i => (clients i).taint) ∧
    ((∀ i, (s.progress i).succeeded = true →
      Carries (s.server.taints name) (clients i).taint) ↔ ∀ i, InOrder i s.history) ∧
    ∀ i, (clients i).guarded = true → InOrder i s.history := by
  refine ⟨fun c taint => Tainter.twice_eq_taintNode c name taint, ?_⟩
  intro s
  have h : Accounted clients name (v.taints name) s :=
    accounted_run hdistinct schedule (accounted_start hv)
  refine ⟨h.taints_eq, ?_, fun i => (h.accounts i).guarded⟩
  rw [← survives_iff_inOrder h.once]
  refine forall_congr' fun i => ?_
  rw [h.carries_iff hdistinct]
  constructor
  · intro hcarries hi
    obtain ⟨hsucceeded, hmissing⟩ := (h.accounts i).written hi
    exact (hcarries hsucceeded).resolve_left hmissing
  · intro hsurvives hsucceeded
    exact ((h.accounts i).succeeded hsucceeded).symm.imp_right hsurvives

/-! ### Two clients at one node -/

/-- A version as strokes. -/
def strokes (n : Nat) : String :=
  String.ofList (List.replicate n '|')

theorem strokes_injective : Function.Injective strokes := by
  intro m n h
  have hlist := congrArg (fun s => s.toList.length) h
  simpa [strokes] using hlist

/-- A node that carries a taint. -/
def dedicatedNode : Json := .obj [
  ("apiVersion", .str "v1"),
  ("kind", .str "Node"),
  ("metadata", .obj [("name", .str "n1"), ("resourceVersion", .str (strokes 1))]),
  Json.taintsPart [{ key := "dedicated", effect := "NoSchedule" }]]

/-- A server with the node. -/
def VersionedServer.dedicated : VersionedServer Server where
  server := { objects := [dedicatedNode] }
  revision := 1
  version := strokes
  version_injective := strokes_injective

theorem VersionedServer.stamped_dedicated : dedicated.Stamped "n1" := by
  intro o ho
  have hnode : dedicated.node? "n1" = some dedicatedNode := by rfl
  rw [hnode] at ho
  cases ho
  rfl

/-- A client that names no version, for the taint of storage, and one that names it. -/
def storageAndMaintenance : Bool → Tainter
  | false => ⟨.storage, false⟩
  | true => ⟨⟨"maintenance", "", "NoExecute"⟩, true⟩

/-- One after the other both add their taints. -/
theorem taints_kept_iff_inOrder_inTurn :
    (∀ i j, i ≠ j → ¬ (storageAndMaintenance i).taint.Same (storageAndMaintenance j).taint) ∧
    VersionedServer.dedicated.Stamped "n1" ∧
    let s := (start .dedicated).run storageAndMaintenance "n1" [false, false, true, true]
    (∀ i, (s.progress i).succeeded = true) ∧ (∀ i, InOrder i s.history) ∧
      s.server.taints "n1" = [⟨"dedicated", "", "NoSchedule"⟩, .storage,
        ⟨"maintenance", "", "NoExecute"⟩] := by
  have hdistinct : ∀ i j, i ≠ j →
      ¬ (storageAndMaintenance i).taint.Same (storageAndMaintenance j).taint := by decide
  have hv := VersionedServer.stamped_dedicated
  refine ⟨hdistinct, hv, by decide +kernel, ?_, by decide +kernel⟩
  obtain ⟨_, _, hkept, _⟩ := taints_kept_iff_inOrder storageAndMaintenance hdistinct .dedicated "n1"
    hv [false, false, true, true]
  exact hkept.mp (by decide +kernel)

/-- A taint is lost that another client added between the two requests, though that client names the
version that it read and both succeed. -/
theorem not_taints_kept : ¬ ∀ (taint : Taint) (other : Tainter), other.guarded = true →
    ¬ taint.Same other.taint → ∀ (v : VersionedServer Server) (name : String), v.Stamped name →
    ∀ schedule : List Bool,
      let clients (b : Bool) : Tainter := if b then other else ⟨taint, false⟩
      let s := (start v).run clients name schedule
      (∀ i, (s.progress i).succeeded = true) → v.taints name ⊆ s.server.taints name ∧
        ∀ i, Carries (s.server.taints name) (clients i).taint := by
  intro hall
  have h := hall .storage ⟨⟨"maintenance", "", "NoExecute"⟩, true⟩ rfl (by decide) .dedicated "n1"
    VersionedServer.stamped_dedicated [false, true, true, false] (by decide +kernel)
  exact absurd (h.2 true) (by decide +kernel)

end StorageSetup
