import StorageSetup.Proofs.Consistency
/-!
# Services left on when storage turns external

On internal storage the first form has rows for a file service, a default class and an external
database, on external storage it has none of them. Before the first step has been left a change of
the type adjusts the settings in place, and no rule switches these services off when the storage
turns external. From then on no row reaches them, so a file service, or a database that is not
described completely, keeps the gate of the first step closed until the type is changed again, and a
database that is described completely goes on into the plan.

Key definitions: `Services`, `State.services`, `Services.InOrder`.
Key theorems: `Screen.services_handle`, `Screen.turned_handle`, `Screen.exists_turned`,
`Screen.external_gate_iff`.
-/

namespace StorageSetup

/-- The services that the first form has rows for on internal storage only. -/
structure Services where
  fileService : Bool := false
  defaultClass : Bool := false
  usesPostgres : Bool := false
  postgres : Postgres := {}
  deriving DecidableEq

/-- The services of the settings. -/
def State.services (s : State) : Services where
  fileService := s.backingStorage.enableNfs
  defaultClass := s.backingStorage.rbdClassIsDefault
  usesPostgres := s.backingStorage.useExternalPostgres
  postgres := s.backingStorage.postgres

/-- External storage can be used with the services. -/
def Services.InOrder (x : Services) : Prop :=
  x.fileService = false ∧ (x.usesPostgres = true → Gate.postgres x.postgres = .ok ())

theorem Services.inOrder_none : ({} : Services).InOrder :=
  ⟨rfl, nofun⟩

theorem State.services_eq_of_same {s t : State} (h : Slice.backingStorage.Same s t) :
    t.services = s.services := by
  unfold services
  rw [show s.backingStorage = _ from h]

/-- On external storage with a vendor the first gate asks for the services alone. -/
theorem Gate.backingStorage_external_iff {s : State} {r : Registry} (he : s.isExternal = true)
    (hv : (r.get? s.backingStorage.externalStorage).isSome = true) :
    checkStep .backingStorage s r = .ok () ↔ s.services.InOrder := by
  show backingStorage s r = .ok () ↔ _
  rw [backingStorage_eq_ok_iff]
  refine and_congr_left fun _ => ?_
  unfold backingType
  rw [beq_iff_eq.mp he]
  simp only [check_bind_eq_ok_iff, require_eq_ok_iff, hv, true_and, Bool.not_eq_true']
  rfl

/-! ### Changes of the type -/

namespace State

/-- What the consistency rules make of the backing storage. -/
theorem backingStorage_normalized (s : State) :
    (normalizers.foldl (fun s rule => rule s) s).backingStorage = { s.backingStorage with
      externalStorage := if s.isExternal = true then s.backingStorage.externalStorage else ""
      enableNfs := s.backingStorage.enableNfs && !s.isMcg
      rbdClassIsDefault := s.backingStorage.rbdClassIsDefault && !s.isMcg } := by
  show s.clearExternalStorage.normalizeStorageClass.clearMcgIncompatible.backingStorage = _
  have hvendor : s.clearExternalStorage.backingStorage = { s.backingStorage with
      externalStorage :=
        if s.isExternal = true then s.backingStorage.externalStorage else "" } := by
    unfold clearExternalStorage isExternal
    cases s.backingStorage.type <;> rfl
  have hgateway (t : State) : t.clearMcgIncompatible.backingStorage = { t.backingStorage with
      enableNfs := t.backingStorage.enableNfs && !t.isMcg
      rbdClassIsDefault := t.backingStorage.rbdClassIsDefault && !t.isMcg } := by
    obtain ⟨_, _, _, ⟨_, deployment, _, _, _, _, _⟩, _⟩ := t
    cases deployment <;> simp [clearMcgIncompatible, isMcg]
  rw [hgateway, isMcg, backingStorage_normalizeStorageClass, hvendor]
  rfl

theorem type_switchMode (s : State) (m : ModeChange) :
    (s.switchMode m).backingStorage.type = (s.setMode m).backingStorage.type := by
  unfold switchMode
  cases m <;> dsimp only [setMode] <;> split_ifs <;> rfl

/-- A mode change leaves the type that it chooses, or the one there was. -/
theorem type_applyModeChange (s : State) (m : ModeChange) :
    (s.applyModeChange m).backingStorage.type = (s.setMode m).backingStorage.type := by
  unfold applyModeChange
  rw [backingStorage_normalized]
  exact type_switchMode s m

/-- A change of the type drops the services once the first step has been left, and keeps them
before. -/
theorem services_applyModeChange {s : State}
    (hoff : s.isMcg = true → ClusterSetting.fileService.off s ∧ ClusterSetting.defaultClass.off s)
    (t : BackingType) : (s.applyModeChange (.backingType t)).services =
      if s.hasProgressed = true then {} else s.services := by
  have hkept : (s.backingStorage.enableNfs && !s.isMcg) = s.backingStorage.enableNfs ∧
      (s.backingStorage.rbdClassIsDefault && !s.isMcg) = s.backingStorage.rbdClassIsDefault := by
    cases hm : s.isMcg with
    | false => simp
    | true =>
      obtain ⟨hfile, hclass⟩ := hoff hm
      simp [show s.backingStorage.enableNfs = false from hfile,
        show s.backingStorage.rbdClassIsDefault = false from hclass]
  unfold applyModeChange services
  rw [backingStorage_normalized]
  by_cases hp : s.hasProgressed = true
  · rw [if_pos hp, switchMode, if_pos hp]
    dsimp only [setMode]
    split_ifs <;> rfl
  · rw [if_neg hp, switchMode, if_neg hp]
    show Services.mk (s.backingStorage.enableNfs && !s.isMcg)
      (s.backingStorage.rbdClassIsDefault && !s.isMcg) _ _ = _
    rw [hkept.1, hkept.2]
    rfl

end State

/-! ### The first form on external storage -/

/-- What the first form offers on external storage: another type, a vendor, or a class. -/
def Action.OnExternal : Action → Prop
  | setBackingType v => v ≠ .external
  | setExternalStorage _ | setStorageClass _ => True
  | _ => False

/-- One action of the first form on external storage. -/
def ExternalEdit (actions : List Action) : Prop :=
  ∃ a, actions = [a] ∧ a.OnExternal

/-- **On external storage the first form has no row for a service.** -/
theorem Form.backingStorageRows_externalEdit {w : Session} (he : w.state.isExternal = true)
    (i : Inventory) : Offers ExternalEdit (backingStorageRows w i) := by
  have hvendors : Offers ExternalEdit (vendorChoiceRows w.state w.registry) := by
    unfold vendorChoiceRows
    split <;> simp [ExternalEdit, Action.OnExternal]
  have ht : w.state.backingStorage.type = .external := beq_iff_eq.mp he
  unfold backingStorageRows
  simp [ht, he, hvendors, ExternalEdit, Action.OnExternal, BackingType.next]

namespace Screen

variable {s s' : Screen}

/-! ### One event -/

theorem services_or_internal_of_makes {row : Row} {actions : List Action} (hrow : row ∈ s.rows)
    (hmade : row.Makes actions) (he : s.session.state.isExternal = true) :
    (reduceAll s.session.state actions).services = s.session.state.services ∨
      (reduceAll s.session.state actions).isExternal = false := by
  rcases onFirstForm_or_same hrow hmade with ⟨hfirst, a, rfl⟩ | hsame
  · obtain ⟨b, hb, hexternal⟩ := Form.backingStorageRows_externalEdit he _ row hfirst [a] hmade
    obtain rfl : a = b := (List.cons.inj hb).1
    cases a with
    | setBackingType v =>
      right
      show ((s.session.state.applyModeChange (.backingType v)).backingStorage.type ==
        .external) = false
      rw [State.type_applyModeChange]
      exact beq_eq_false_iff_ne.mpr hexternal
    | setExternalStorage kind => exact .inl rfl
    | setStorageClass c => exact .inl rfl
    | _ => exact hexternal.elim
  · exact .inl (State.services_eq_of_same hsame)

/-- Storage turns external by an action that says so. -/
theorem eq_setBackingType_of_turned {s : State} {a : Action} (he : s.isExternal = false)
    (he' : (reduce s a).isExternal = true) : a = .setBackingType .external := by
  have htype {t : State} (ht : t.backingStorage.type = s.backingStorage.type)
      (h : t.isExternal = true) : False := by
    unfold State.isExternal at he h
    rw [ht, he] at h
    cases h
  cases a with
  | setBackingType v =>
    have hv : v = .external := (State.type_applyModeChange s _).symm.trans (beq_iff_eq.mp he')
    rw [hv]
  | setDeployment v => exact (htype (State.type_applyModeChange s _) he').elim
  | _ => exact (htype rfl he').elim

/-- The consistency rule for the object gateway leaves the services of the first form off. -/
theorem services_off_of_mcg (config : Config) (r : Registry) (events : List (Files × Event)) :
    let s := ((Screen.new config r).after events).session.state
    s.isMcg = true → ClusterSetting.fileService.off s ∧ ClusterSetting.defaultClass.off s := by
  intro s hm
  have hoff (x : ClusterSetting) (hx : ∀ n, x.offeredOn n = false) : x.off s :=
    ClusterSetting.offWhile_of_not_offered (p := fun _ => True) hx config r events hm trivial
  exact ⟨hoff _ fun n => by cases n <;> rfl, hoff _ fun n => by cases n <;> rfl⟩

theorem isExternal_eq_of_same {s t : State} (h : Slice.backingStorage.Same s t) :
    t.isExternal = s.isExternal := by
  unfold State.isExternal
  rw [show s.backingStorage = _ from h]

/-- **While storage is external every event leaves the services.** -/
theorem services_handle (files : Files) (e : Event) (hb : s.session.InBounds)
    (he : s.session.state.isExternal = true)
    (he' : (s.handle files e).1.session.state.isExternal = true) :
    (s.handle files e).1.session.state.services = s.session.state.services := by
  rcases used_or_same_handle (x := .backingStorage) (by decide) s files e hb with
    ⟨k, row, actions, rfl, hused, hmade⟩ | hsame
  · rw [isExternal_eq_of_same hmade] at he'
    rw [State.services_eq_of_same hmade]
    rcases services_or_internal_of_makes (selectedRow_mem hused.selected) hused.made he with
      hservices | hinternal
    · exact hservices
    · rw [hinternal] at he'
      cases he'
  · exact State.services_eq_of_same hsame

/-- **Storage turns external through the row of the type**, and the services stay as they are unless
the first step has been left before. -/
theorem turned_handle (files : Files) (e : Event) (hb : s.session.InBounds)
    (hoff : s.session.state.isMcg = true → ClusterSetting.fileService.off s.session.state ∧
      ClusterSetting.defaultClass.off s.session.state)
    (he : s.session.state.isExternal = false)
    (he' : (s.handle files e).1.session.state.isExternal = true) :
    ∃ k row, e = .key k ∧
      s.Used (s.handle files e).1 k row [.setBackingType .external] ∧
      (s.handle files e).1.session.state.services =
        if s.session.state.hasProgressed = true then {} else s.session.state.services := by
  rcases used_or_same_handle (x := .backingStorage) (by decide) s files e hb with
    ⟨k, row, actions, rfl, hused, hmade⟩ | hsame
  · rw [isExternal_eq_of_same hmade] at he'
    rcases onFirstForm_or_same (selectedRow_mem hused.selected) hused.made with
      ⟨_, a, rfl⟩ | hsame
    · obtain rfl := eq_setBackingType_of_turned he he'
      refine ⟨k, row, rfl, hused, ?_⟩
      rw [State.services_eq_of_same hmade]
      exact State.services_applyModeChange hoff .external
    · rw [isExternal_eq_of_same hsame, he] at he'
      cases he'
  · rw [isExternal_eq_of_same hsame, he] at he'
    cases he'

/-! ### Runs -/

/-- The row of the type was used to turn the storage external, and the services are those of then,
or none where the first step had been left. -/
structure Turned (b t : Screen) (k : Key) : Prop where
  internal : b.session.state.isExternal = false
  used : ∃ row, b.Used t k row [.setBackingType .external]
  services : t.session.state.services =
    if b.session.state.hasProgressed = true then {} else b.session.state.services

/-- **External storage has the services that it was turned external with.** -/
theorem exists_turned (config : Config) (r : Registry) (events : List (Files × Event)) :
    ((Screen.new config r).after events).session.state.isExternal = true →
    ∃ before files k rest, events = before ++ (files, .key k) :: rest ∧
      let b := (Screen.new config r).after before
      let t := (b.press files k).1
      b.Turned t k ∧ ∀ mid, mid <+: rest → (t.after mid).session.state.isExternal = true ∧
        (t.after mid).session.state.services = t.session.state.services := by
  induction events using List.reverseRecOn with
  | nil => exact nofun
  | append_singleton events e ih =>
    intro he'
    obtain ⟨files, e⟩ := e
    have hlast : (Screen.new config r).after (events ++ [(files, e)]) =
        (((Screen.new config r).after events).handle files e).1 := after_append _ _ _
    have hg := guarded_after events (guarded_new config r)
    rw [hlast] at he'
    cases he : ((Screen.new config r).after events).session.state.isExternal with
    | false =>
      obtain ⟨k, row, rfl, hused, hservices⟩ := turned_handle files e hg.inBounds
        (services_off_of_mcg config r events) he he'
      refine ⟨events, files, k, [], rfl, ⟨he, ⟨row, hused⟩, hservices⟩, fun mid hmid => ?_⟩
      rw [List.prefix_nil.mp hmid]
      exact ⟨he', rfl⟩
    | true =>
      -- the storage was external before the last event, so that event left the services
      have hkept := services_handle files e hg.inBounds he he'
      obtain ⟨before, files₀, k, rest, rfl, hturned, hmid⟩ := ih he
      refine ⟨before, files₀, k, rest ++ [(files, e)], by simp, hturned, fun mid hpre => ?_⟩
      rcases List.prefix_concat_iff.mp hpre with rfl | hpre
      · rw [after_append] at hlast hkept he' ⊢
        exact ⟨he', hkept.trans (hmid rest List.prefix_rfl).2⟩
      · exact hmid mid hpre

/-- **Where the gate of external storage is open.** With a vendor chosen, the first gate is open if
and only if the first step had been left when the storage turned external for the last time, or the
services were in order at that time: no file service, and no external database that is not
described completely. The services of that time stay until the type is changed again, so what closes
the gate has no row, and a database that was described completely is still there. -/
theorem external_gate_iff (config : Config) (r : Registry) (events : List (Files × Event)) :
    let s := (Screen.new config r).after events
    s.session.state.isExternal = true →
    (s.session.registry.get? s.session.state.backingStorage.externalStorage).isSome = true →
    ∃ before files k rest, events = before ++ (files, .key k) :: rest ∧
      let b := (Screen.new config r).after before
      b.session.state.isExternal = false ∧
      (∃ row, b.Used (b.press files k).1 k row [.setBackingType .external]) ∧
      (∀ mid, mid <+: rest →
        let m := (b.press files k).1.after mid
        m.session.state.isExternal = true ∧ m.session.state.services =
          if b.session.state.hasProgressed = true then {} else b.session.state.services) ∧
      (checkStep .backingStorage s.session.state s.session.registry = .ok () ↔
        b.session.state.hasProgressed = true ∨ b.session.state.services.InOrder) := by
  intro s he hv
  obtain ⟨before, files, k, rest, hevents, hturned, hmid⟩ := exists_turned config r events he
  have hservices (mid : List (Files × Event)) (hpre : mid <+: rest) :=
    (hmid mid hpre).2.trans hturned.services
  refine ⟨before, files, k, rest, hevents, hturned.internal, hturned.used,
    fun mid hpre => ⟨(hmid mid hpre).1, hservices mid hpre⟩, ?_⟩
  have hs : s = (((Screen.new config r).after before).press files k).1.after rest := by
    show (Screen.new config r).after events = _
    rw [hevents, after_append]
    rfl
  rw [Gate.backingStorage_external_iff he hv, hs, hservices rest List.prefix_rfl]
  split_ifs with hprogressed
  · simp [hprogressed, Services.inOrder_none]
  · simp [hprogressed]

/-! ### A file service on external storage -/

/-- The keys that switch the file service on, turn the storage external and choose a vendor. -/
def keysToVendor : List Key :=
  [.down, .down, .down, .enter, .up, .up, .up, .enter, .enter, .down, .enter]

def eventsToVendor : List (Files × Event) :=
  keysToVendor.map fun k => (noFiles, .key k)

/-- The file service was on when the storage turned external, before the first step was left. -/
theorem external_gate_iff_fileService :
    let s := (Screen.new {} .builtins).after eventsToVendor
    s.session.state.isExternal = true ∧
    (s.session.registry.get? s.session.state.backingStorage.externalStorage).isSome = true ∧
    ∃ before, before <+: eventsToVendor ∧
      let b := (Screen.new {} .builtins).after before
      b.session.state.isExternal = false ∧ b.session.state.hasProgressed = false ∧
        ¬ b.session.state.services.InOrder := by
  intro s
  have he : s.session.state.isExternal = true := by decide +kernel
  have hv : (s.session.registry.get?
    s.session.state.backingStorage.externalStorage).isSome = true := by decide +kernel
  have hclosed : (checkStep .backingStorage s.session.state s.session.registry).isOk = false := by
    decide +kernel
  obtain ⟨before, files, k, rest, hevents, hinternal, _, _, hgate⟩ :=
    external_gate_iff {} .builtins eventsToVendor he hv
  rw [← isOk_iff, hclosed] at hgate
  obtain ⟨hprogressed, hservices⟩ := not_or.mp (mt hgate.mpr Bool.false_ne_true)
  exact ⟨he, hv, before, ⟨_, hevents.symm⟩, hinternal, Bool.eq_false_iff.mpr hprogressed, hservices⟩

/-- A service that has no row on external storage can keep its gate closed. -/
theorem not_external_gate_open : ¬ ∀ events : List (Files × Event),
    let s := (Screen.new {} .builtins).after events
    s.session.state.isExternal = true →
    (s.session.registry.get? s.session.state.backingStorage.externalStorage).isSome = true →
    checkStep .backingStorage s.session.state s.session.registry = .ok () := by
  intro hall
  have hopen := isOk_iff.mpr (hall eventsToVendor (by decide +kernel) (by decide +kernel))
  exact absurd hopen (by decide +kernel)

end Screen

end StorageSetup
