import StorageSetup.Proofs.ClusterSettings
import StorageSetup.Proofs.Stray
/-!
# The consistency rules between mode changes

The consistency rules follow a change of the mode. Whatever happens in between, a vendor is there on
external storage only, as the rule for the vendor has it. The rule for the object gateway can be
broken: under the object gateway alone there are rows for the taint and the encryption in transit,
and on external storage one for the networks. A key that uses one of these three rows is all that
breaks it.

Key definitions: `Screen.Uses`, `Screen.Used`, `KeptByForms`, `State.VendorInPlace`.
Key theorems: `Screen.handle_cases`, `Screen.used_or_same_handle`, `KeptByForms.after`,
`ClusterSetting.offWhile_after`, `Screen.vendorInPlace_after`, `Screen.rules_hold_after`.
-/

namespace StorageSetup

/-! ### Keys -/

/-- Under the object gateway alone networks have a step on external storage only. -/
theorem Session.isExternal_of_networks {w : Session} (hm : w.state.isMcg = true)
    (h : .securityAndNetwork ∈ w.names) : w.state.isExternal = true := by
  have hd : w.state.backingStorage.deployment = .mcg := beq_iff_eq.mp hm
  unfold names stepNames Flow.of at h
  cases ht : w.state.backingStorage.type with
  | external =>
    rw [State.isExternal, ht]
    rfl
  | existing =>
    simp only [ht, hd] at h
    exact absurd (List.mem_filter.mp h).1 (by decide)
  | localDevices =>
    simp only [ht, hd] at h
    exact absurd (List.mem_filter.mp h).1 (by decide)

namespace Screen

/-- The key is one that uses rows, and the selected row has the label. -/
def Uses (s : Screen) (k : Key) (label : String) : Prop :=
  (k = .enter ∨ k = .char ' ') ∧ ∃ row, s.selectedRow? = some row ∧ row.label = label

/-- The selected row made the actions. -/
structure Used (s s' : Screen) (k : Key) (row : Row) (actions : List Action) : Prop where
  key : k = .enter ∨ k = .char ' '
  selected : s.selectedRow? = some row
  made : row.Makes actions
  session : s'.session = (s.session.dispatchAll actions).following s.inventory.value?

/-- The settings are the same, except for what going forward writes. -/
def KeepsSettings (s s' : Screen) : Prop :=
  ∀ x ∉ Session.forwardWrites, x.Same s.session.state s'.session.state

variable {s s' : Screen}

theorem keepsSettings_of_state (h : s'.session.state = s.session.state) : s.KeepsSettings s' :=
  fun x _ => h ▸ Slice.Same.refl x _

theorem used_dispatch {k : Key} {row : Row} {actions : List Action}
    (hk : k = .enter ∨ k = .char ' ') (hrow : s.selectedRow? = some row)
    (hmade : row.Makes actions) (editing : Option String) :
    s.Used (dispatch { s with editing := editing } actions) k row actions := by
  unfold dispatch clampSelection
  rw [refreshLocalVolumes_eq]
  exact ⟨hk, hrow, hmade, rfl⟩

theorem used_or_keeps_commit (s : Screen) (files : Files) (text : String) :
    (∃ row actions, s.Used (s.commit files text) .enter row actions) ∨
      s.KeepsSettings (s.commit files text) := by
  unfold commit
  dsimp only
  split
  · next actions hactions =>
    obtain ⟨row, hrow, hmade⟩ := Option.bind_eq_some_iff.mp hactions
    refine .inl ⟨row, actions, used_dispatch (.inl rfl) hrow ?_ none⟩
    unfold Row.Makes
    split at hmade
    · next hedit =>
      rw [hedit]
      exact ⟨files, text, hmade⟩
    · cases hmade
  · exact .inr (keepsSettings_of_state rfl)

theorem used_or_keeps_activate {k : Key} (hk : k = .enter ∨ k = .char ' ') (s : Screen) :
    (∃ row actions, s.Used s.activate.1 k row actions) ∨ s.KeepsSettings s.activate.1 := by
  unfold activate
  split
  · next actions h =>
    obtain ⟨row, hrow, hedit⟩ := Option.map_eq_some_iff.mp h
    refine .inl ⟨row, actions, used_dispatch hk hrow ?_ s.editing⟩
    unfold Row.Makes
    rw [hedit]
  all_goals exact .inr (keepsSettings_of_state rfl)

theorem keepsSettings_goNext (hb : s.session.InBounds) : s.KeepsSettings s.goNext := by
  unfold goNext
  cases h : s.session.next with
  | error e => exact keepsSettings_of_state rfl
  | ok moved =>
    obtain ⟨moved, step⟩ := moved
    rcases Session.eq_of_next hb h with ⟨rfl, _⟩ | ⟨rfl, _⟩
    · exact keepsSettings_of_state rfl
    · exact fun x hx => s.session.same_advance hx

theorem keepsSettings_jumpTo (s : Screen) (id : UInt32) : s.KeepsSettings (s.jumpTo id) := by
  unfold jumpTo
  cases h : s.session.jumpTo id with
  | error e => exact keepsSettings_of_state rfl
  | ok jumped =>
    refine keepsSettings_of_state ?_
    show jumped.state = s.session.state
    rw [(Session.eq_of_jumpTo h).2]

theorem keepsSettings_select (s : Screen) :
    s.KeepsSettings s.selectPrevious ∧ s.KeepsSettings s.selectNext := by
  unfold selectPrevious selectNext
  dsimp only
  split_ifs <;> exact ⟨keepsSettings_of_state rfl, keepsSettings_of_state rfl⟩

/-- **Only the selected row changes settings**, and it takes a key that uses rows. -/
theorem used_or_keeps_press (files : Files) (k : Key) (hb : s.session.InBounds) :
    (∃ row actions, s.Used (s.press files k).1 k row actions) ∨
      s.KeepsSettings (s.press files k).1 := by
  unfold press
  split
  · cases k with
    | enter => exact used_or_keeps_commit s files _
    | _ => exact .inr (keepsSettings_of_state rfl)
  · unfold pressOnForm
    split
    case h_4 | h_5 => exact .inr (keepsSettings_select s).1
    case h_6 | h_7 => exact .inr (keepsSettings_select s).2
    case h_8 => exact used_or_keeps_activate (.inl rfl) s
    case h_9 => exact used_or_keeps_activate (.inr rfl) s
    case h_10 | h_11 | h_12 => exact .inr (keepsSettings_goNext hb)
    case h_16 =>
      split
      · exact .inr (keepsSettings_jumpTo s _)
      · exact .inr (keepsSettings_of_state rfl)
    all_goals exact .inr (keepsSettings_of_state rfl)
  · exact .inr (keepsSettings_of_state rfl)

/-- **What an event does to the settings.** -/
theorem handle_cases (s : Screen) (files : Files) (e : Event) (hb : s.session.InBounds) :
    (∃ k row actions, e = .key k ∧ s.Used (s.handle files e).1 k row actions) ∨
    (∃ i : Inventory, (s.handle files e).1.session =
      (s.session.setContext i.context).followDisks i) ∨
    s.KeepsSettings (s.handle files e).1 := by
  cases e with
  | key k =>
    rcases used_or_keeps_press files k hb with ⟨row, actions, hused⟩ | hkeeps
    · exact .inl ⟨k, row, actions, rfl, hused⟩
    · exact .inr (.inr hkeeps)
  | inventory result =>
    cases result with
    | ok i =>
      refine .inr (.inl ⟨i, ?_⟩)
      show (s.showInventory (.ok i)).session = _
      rw [showInventory_eq]
    | error message => exact .inr (.inr (keepsSettings_of_state rfl))
  | finished failure => cases failure <;> exact .inr (.inr (keepsSettings_of_state rfl))
  | _ => exact .inr (.inr (keepsSettings_of_state rfl))

section OnForms

variable {x : Slice} (hx : x ∉ Session.forwardWrites ++ [.localVolumes, .capacity])

include hx

theorem same_following (w : Session) (i : Option Inventory) :
    x.Same w.state (w.following i).state := by
  cases i with
  | none => exact Slice.Same.refl _ _
  | some i => exact w.same_followDisks i fun h => hx (List.mem_append_right _ h)

/-- What a used row leaves of the slice is what its actions make. -/
theorem Used.same {k : Key} {row : Row} {actions : List Action} (h : s.Used s' k row actions) :
    x.Same (reduceAll s.session.state actions) s'.session.state := by
  rw [h.session, ← Session.state_dispatchAll]
  exact same_following hx _ _

/-- **A slice that neither going forward nor the disks write** is what the actions of a used row
make of it, or stays. -/
theorem used_or_same_handle (s : Screen) (files : Files) (e : Event) (hb : s.session.InBounds) :
    (∃ k row actions, e = .key k ∧ s.Used (s.handle files e).1 k row actions ∧
      x.Same (reduceAll s.session.state actions) (s.handle files e).1.session.state) ∨
    x.Same s.session.state (s.handle files e).1.session.state := by
  rcases s.handle_cases files e hb with ⟨k, row, actions, he, hused⟩ | ⟨i, hi⟩ | hkeeps
  · exact .inl ⟨k, row, actions, he, hused, hused.same hx⟩
  · rw [hi]
    exact .inr (same_following hx (s.session.setContext i.context) (some i))
  · exact .inr (hkeeps x fun h => hx (List.mem_append_left _ h))

end OnForms

/-- The backing storage is edited on the first form alone, by one action at a time. -/
theorem onFirstForm_or_same {row : Row} {actions : List Action} (hrow : row ∈ s.rows)
    (hmade : row.Makes actions) :
    (row ∈ Form.backingStorageRows s.session s.inventoryOrEmpty ∧ ∃ a, actions = [a]) ∨
      s.session.state.backingStorage = (reduceAll s.session.state actions).backingStorage := by
  by_cases hstep : s.step = .backingStorage
  · have hfirst : row ∈ Form.backingStorageRows s.session s.inventoryOrEmpty := by
      unfold rows at hrow
      rwa [hstep] at hrow
    obtain ⟨a, ha, _⟩ := Form.backingStorageRows_offers _ _ row hfirst actions hmade
    exact .inl ⟨hfirst, a, ha⟩
  · have hedits : .backingStorage ∉ s.step.edits := by
      cases hs : s.step <;> first | exact absurd hs hstep | decide
    exact .inr (reduceAll_same (x := .backingStorage) actions _
      ((edits_of_makes hrow hmade).not_writes hedits))

end Screen

/-! ### What the forms keep -/

/-- A property of a slice that is edited on forms alone, and whatever a form makes keeps it. -/
structure KeptByForms (x : Slice) (p : State → Prop) : Prop where
  onForms : x ∉ Session.forwardWrites ++ [.localVolumes, .capacity]
  of_same : ∀ {s t : State}, x.Same s t → p s → p t
  of_makes : ∀ {s : Screen} {row : Row} {actions : List Action}, row ∈ s.rows →
    row.Makes actions → p s.session.state → p (reduceAll s.session.state actions)

namespace KeptByForms

variable {x : Slice} {p : State → Prop} {s : Screen}

/-- **An event keeps what the forms keep.** -/
theorem handle (hk : KeptByForms x p) (files : Files) (e : Screen.Event) (hb : s.session.InBounds)
    (h : p s.session.state) : p (s.handle files e).1.session.state := by
  rcases Screen.used_or_same_handle hk.onForms s files e hb with
    ⟨k, row, actions, rfl, hused, hsame⟩ | hsame
  · exact hk.of_same hsame (hk.of_makes (Screen.selectedRow_mem hused.selected) hused.made h)
  · exact hk.of_same hsame h

/-- **What the forms keep holds at all times.** -/
theorem after (hk : KeptByForms x p) : ∀ (events : List (Files × Screen.Event)) {s : Screen},
    s.Guarded → p s.session.state → p (s.after events).session.state
  | [], _, _, h => h
  | e :: events, _, hg, h =>
    hk.after events (Screen.guarded_handle e.1 hg e.2) (hk.handle e.1 e.2 hg.inBounds h)

end KeptByForms

/-! ### Settings that stay off -/

namespace ClusterSetting

variable {x : ClusterSetting} {p : BackingType → Prop} {w : Session} {s s' : Screen}

theorem OffWhile.followDisks (h : x.OffWhile p w.state) (hb : w.InBounds) (i : Inventory) :
    x.OffWhile p (w.followDisks i).state := by
  by_cases ht : w.state.backingStorage.type = .localDevices
  · obtain ⟨count, he⟩ := Session.followDisks_of_local (i := i) hb ht
    rw [he]
    exact (h.reduce List.not_mem_nil).reduce List.not_mem_nil
  · rwa [Session.followDisks_of_not_local ht]

theorem OffWhile.following (h : x.OffWhile p w.state) (hb : w.InBounds) (i : Option Inventory) :
    x.OffWhile p (w.following i).state := by
  cases i with
  | none => exact h
  | some i => exact h.followDisks hb i

/-- From other modes than the given ones a form leads there with the setting off. -/
theorem offWhile_of_makes {row : Row} {actions : List Action} (hrow : row ∈ s.rows)
    (hmade : row.Makes actions)
    (hmode : ¬(s.session.state.isMcg = true ∧ p s.session.state.backingStorage.type)) :
    x.OffWhile p (reduceAll s.session.state actions) := by
  rcases Screen.onFirstForm_or_same hrow hmade with ⟨_, a, rfl⟩ | hsame
  · exact offWhile_reduce_of_not hmode a
  · intro hm hp
    rw [State.isMcg, ← hsame] at hm
    rw [← hsame] at hp
    exact absurd ⟨hm, hp⟩ hmode

/-- **A row that switches the setting on is its own row.** -/
theorem offWhile_of_used {k : Key} {row : Row} {actions : List Action} (hb : s.session.InBounds)
    (hused : s.Used s' k row actions) (h : x.OffWhile p s.session.state) :
    x.OffWhile p s'.session.state ∨
      (s.session.state.isMcg = true ∧ p s.session.state.backingStorage.type ∧
        x.off s.session.state ∧ x.offeredOn s.step = true ∧ s.Uses k x.label) := by
  have hrow := Screen.selectedRow_mem hused.selected
  have hfollows (hall : x.OffWhile p (reduceAll s.session.state actions)) :
      x.OffWhile p s'.session.state := by
    rw [hused.session]
    refine OffWhile.following ?_ (Session.inBounds_dispatchAll actions hb) _
    rwa [Session.state_dispatchAll]
  by_cases hmode : s.session.state.isMcg = true ∧ p s.session.state.backingStorage.type
  · have hoff := h hmode.1 hmode.2
    rcases Form.rows_spare s.step s.session _ hmode.1 hoff row hrow with hspare | ⟨hon, hlabel⟩
    · exact .inl (hfollows (h.reduceAll actions (hspare actions hused.made)))
    · exact .inr ⟨hmode.1, hmode.2, hoff, hon, hused.key, row, hused.selected, hlabel⟩
  · exact .inl (hfollows (offWhile_of_makes hrow hused.made hmode))

/-- **An event that switches the setting on is a key that uses its row.** -/
theorem offWhile_handle (files : Files) (e : Screen.Event) (hb : s.session.InBounds)
    (h : x.OffWhile p s.session.state) :
    x.OffWhile p (s.handle files e).1.session.state ∨ ∃ k, e = .key k ∧
      s.session.state.isMcg = true ∧ p s.session.state.backingStorage.type ∧
      x.off s.session.state ∧ x.offeredOn s.step = true ∧ s.Uses k x.label := by
  rcases s.handle_cases files e hb with ⟨k, row, actions, rfl, hused⟩ | ⟨i, hi⟩ | hkeeps
  · exact (offWhile_of_used hb hused h).imp_right fun huses => ⟨k, rfl, huses⟩
  · rw [hi]
    exact .inl (OffWhile.followDisks (w := s.session.setContext i.context) h
      (Session.inBounds_clamp _) i)
  · refine .inl (h.of_same (hkeeps .backingStorage (by decide)) (hkeeps x.slice ?_))
    cases x <;> decide

/-- **Whatever happens, a setting is off under the object gateway alone unless its row was used
there**, on a form that has the row. -/
theorem offWhile_after (x : ClusterSetting) (p : BackingType → Prop) (config : Config)
    (r : Registry) (events : List (Files × Screen.Event)) :
    x.OffWhile p ((Screen.new config r).after events).session.state ∨
    ∃ before files k rest, events = before ++ (files, .key k) :: rest ∧
      let s := (Screen.new config r).after before
      s.session.state.isMcg = true ∧ p s.session.state.backingStorage.type ∧
        x.off s.session.state ∧ x.offeredOn s.step = true ∧ s.Uses k x.label := by
  induction events using List.reverseRecOn with
  | nil => exact .inl fun _ _ => x.off_initial
  | append_singleton events e ih =>
    rcases ih with hoff | ⟨before, files, k, rest, rfl, hused⟩
    · rw [Screen.after_append]
      obtain ⟨files, e⟩ := e
      have hg := Screen.guarded_after events (Screen.guarded_new config r)
      rcases offWhile_handle files e hg.inBounds hoff with hoff | ⟨k, rfl, hused⟩
      · exact .inl hoff
      · exact .inr ⟨events, files, k, [], rfl, hused⟩
    · exact .inr ⟨before, files, k, rest ++ [e], by simp, hused⟩

/-- The settings without a row on any form are always off. -/
theorem offWhile_of_not_offered (hx : ∀ n, x.offeredOn n = false) (config : Config) (r : Registry)
    (events : List (Files × Screen.Event)) :
    x.OffWhile p ((Screen.new config r).after events).session.state := by
  refine (x.offWhile_after p config r events).resolve_right ?_
  rintro ⟨before, _, _, _, _, _, _, _, hon, _⟩
  exact Bool.false_ne_true ((hx _).symm.trans hon)

theorem mem_of_offered {n : StepName} (h : x.offeredOn n = true) :
    x ∈ [taint, inTransit, networks] := by
  cases x <;> first | decide | (cases n <;> cases h)

theorem isExternal_of_offered (hb : s.session.InBounds) (hm : s.session.state.isMcg = true)
    (hon : networks.offeredOn s.step = true) : s.session.state.isExternal = true := by
  have hstep : s.step = .securityAndNetwork := by
    cases hs : s.step <;> rw [hs] at hon <;> first | rfl | cases hon
  exact Session.isExternal_of_networks hm (hstep ▸ Session.name_currentStep_mem hb)

/-- There are networks on external storage alone. -/
theorem networks_offWhile (config : Config) (r : Registry)
    (events : List (Files × Screen.Event)) :
    networks.OffWhile (· ≠ .external) ((Screen.new config r).after events).session.state := by
  refine (networks.offWhile_after _ config r events).resolve_right ?_
  rintro ⟨before, _, _, _, _, hm, hp, _, hon, _⟩
  have hg := Screen.guarded_after before (Screen.guarded_new config r)
  exact hp (beq_iff_eq.mp (isExternal_of_offered hg.inBounds hm hon))

end ClusterSetting

/-! ### The vendor -/

/-- A vendor is chosen on external storage only. -/
def Action.ChoosesRightly (s : State) : Action → Prop
  | setExternalStorage _ => s.isExternal = true
  | _ => True

/-- There is a vendor on external storage only. -/
def State.VendorInPlace (s : State) : Prop :=
  s.isExternal = false → s.backingStorage.externalStorage = ""

namespace State

variable {s t : State}

theorem VendorInPlace.of_same (h : s.VendorInPlace) (hb : Slice.backingStorage.Same s t) :
    t.VendorInPlace := by
  unfold VendorInPlace isExternal
  rw [← show s.backingStorage = _ from hb]
  exact h

theorem vendorInPlace_applyModeChange (s : State) (m : ModeChange) :
    (s.applyModeChange m).VendorInPlace :=
  clearExternalStorage_eq_iff.mp (rule_applyModeChange (by simp [normalizers]) s m)

theorem VendorInPlace.reduce (h : s.VendorInPlace) {a : Action} (ha : a.ChoosesRightly s) :
    (reduce s a).VendorInPlace := by
  cases a with
  | setBackingType v => exact vendorInPlace_applyModeChange s _
  | setDeployment v => exact vendorInPlace_applyModeChange s _
  | setExternalStorage v =>
    intro he
    have he' : s.isExternal = false := he
    exact absurd (he'.symm.trans ha) Bool.false_ne_true
  | _ => exact h

end State

/-- The actions choose no vendor, but on external storage. -/
def State.VendorEdit (s : State) (actions : List Action) : Prop :=
  ∀ a ∈ actions, a.ChoosesRightly s

/-- The first form offers vendors on external storage only. -/
theorem Form.backingStorageRows_vendorEdit (w : Session) (i : Inventory) :
    Offers w.state.VendorEdit (backingStorageRows w i) := by
  have hpostgres : Offers w.state.VendorEdit (postgresRows w.state.backingStorage) := by
    simp [postgresRows, State.VendorEdit, Action.ChoosesRightly]
  have hclasses : Offers w.state.VendorEdit (storageClassRows w.state i) := by
    unfold storageClassRows
    split <;> simp [State.VendorEdit, Action.ChoosesRightly]
  have hvendors (he : w.state.isExternal = true) :
      Offers w.state.VendorEdit (vendorChoiceRows w.state w.registry) := by
    unfold vendorChoiceRows
    split <;> simp [State.VendorEdit, Action.ChoosesRightly, he]
  unfold backingStorageRows
  cases ht : w.state.backingStorage.type with
  | external =>
    have he : w.state.isExternal = true := by rw [State.isExternal, ht]; rfl
    simp [ht, hpostgres, hvendors he, State.VendorEdit, Action.ChoosesRightly]
  | _ => simp [ht, hpostgres, hclasses, State.VendorEdit, Action.ChoosesRightly]

namespace Screen

variable {s s' : Screen}

theorem vendorInPlace_of_makes {row : Row} {actions : List Action} (hrow : row ∈ s.rows)
    (hmade : row.Makes actions) (h : s.session.state.VendorInPlace) :
    (reduceAll s.session.state actions).VendorInPlace := by
  rcases onFirstForm_or_same hrow hmade with ⟨hfirst, a, rfl⟩ | hsame
  · have hedit := Form.backingStorageRows_vendorEdit _ _ row hfirst [a] hmade
    exact h.reduce (hedit a List.mem_cons_self)
  · exact h.of_same hsame

/-- **The forms keep the vendor in its place.** -/
theorem keptByForms_vendorInPlace : KeptByForms .backingStorage State.VendorInPlace where
  onForms := by decide
  of_same hsame h := h.of_same hsame
  of_makes := vendorInPlace_of_makes

theorem vendorInPlace_after (events : List (Files × Event)) (hg : s.Guarded)
    (h : s.session.state.VendorInPlace) : (s.after events).session.state.VendorInPlace :=
  keptByForms_vendorInPlace.after events hg h

/-! ### The rules between mode changes -/

/-- **Which rules hold at all times.** Whatever happens, the rule for the vendor has nothing to
change, and under the object gateway alone the services, the arbiter and, but on external storage,
the networks are off. So the rule for the object gateway has nothing to change exactly where there
are no taint and no encryption in transit, and on external storage no networks. Where it has, a key
used the row of one of these three settings under the object gateway alone, that of the networks on
external storage. -/
theorem rules_hold_after (config : Config) (r : Registry) (events : List (Files × Event)) :
    let s := ((Screen.new config r).after events).session.state
    s.clearExternalStorage = s ∧
    (s.isMcg = true → ClusterSetting.fileService.off s ∧ ClusterSetting.defaultClass.off s ∧
      ClusterSetting.arbiter.off s ∧ (s.isExternal = false → ClusterSetting.networks.off s)) ∧
    (s.clearMcgIncompatible = s ↔ (s.isMcg = true →
      ClusterSetting.taint.off s ∧ ClusterSetting.inTransit.off s ∧
        (s.isExternal = true → ClusterSetting.networks.off s))) ∧
    (s.clearMcgIncompatible = s ∨
      ∃ x ∈ [ClusterSetting.taint, .inTransit, .networks], ∃ before files k rest,
        events = before ++ (files, .key k) :: rest ∧
        let b := (Screen.new config r).after before
        b.session.state.isMcg = true ∧ x.off b.session.state ∧ x.offeredOn b.step = true ∧
          b.Uses k x.label ∧ (x = .networks → b.session.state.isExternal = true)) := by
  intro s
  have hkept : s.isMcg = true → ∀ x : ClusterSetting, (∀ n, x.offeredOn n = false) → x.off s :=
    fun hm x hx => ClusterSetting.offWhile_of_not_offered (p := fun _ => True) hx config r events
      hm trivial
  have hnetworks : s.isMcg = true → s.isExternal = false → ClusterSetting.networks.off s :=
    fun hm he => ClusterSetting.networks_offWhile config r events hm (beq_eq_false_iff_ne.mp he)
  refine ⟨State.clearExternalStorage_eq_iff.mpr ?_, fun hm => ?_, ?_, ?_⟩
  · exact vendorInPlace_after events (guarded_new config r) fun _ => rfl
  · exact ⟨hkept hm _ fun n => by cases n <;> rfl, hkept hm _ fun n => by cases n <;> rfl,
      hkept hm _ fun n => by cases n <;> rfl, hnetworks hm⟩
  · rw [State.clearMcgIncompatible_eq_iff]
    refine forall_congr' fun hm => ⟨fun h => ⟨h _, h _, fun _ => h _⟩, fun h x => ?_⟩
    cases x with
    | taint => exact h.1
    | inTransit => exact h.2.1
    | networks =>
      cases he : s.isExternal with
      | true => exact h.2.2 he
      | false => exact hnetworks hm he
    | _ => exact hkept hm _ fun n => by cases n <;> rfl
  · refine Classical.or_iff_not_imp_left.mpr fun hnot => ?_
    rw [State.clearMcgIncompatible_eq_iff] at hnot
    obtain ⟨hm, hnot⟩ := Classical.not_imp.mp hnot
    obtain ⟨x, hon⟩ := Classical.not_forall.mp hnot
    rcases x.offWhile_after (fun _ => True) config r events with hoff |
      ⟨before, files, k, rest, hevents, hbm, _, hboff, hoffered, huses⟩
    · exact absurd (hoff hm trivial) hon
    · refine ⟨x, ?_, before, files, k, rest, hevents, hbm, hboff, hoffered, huses, ?_⟩
      · exact ClusterSetting.mem_of_offered hoffered
      · rintro rfl
        have hg := guarded_after before (guarded_new config r)
        exact ClusterSetting.isExternal_of_offered hg.inBounds hbm hoffered

/-! ### A vendor under the object gateway alone -/

/-- The keys that enter a text into the selected row and go to the row below. -/
def keysToEnter (text : String) : List Key :=
  .enter :: text.toList.map .char ++ [.enter, .down]

/-- The keys that choose the object gateway alone, then external storage on a FlashSystem, and fill
in the form of the vendor, up to the step for capacity and nodes. -/
def keysToCapacity : List Key :=
  [.down, .enter, .up, .enter, .enter, .down, .down, .enter, .down] ++ keysToEnter "f" ++
    [.char 'n', .down] ++ ["a", "https://a", "u", "p", "q"].flatMap keysToEnter ++
    [.enter, .char 'n']

/-- The keys that use the rows of the taint and, on the next step, of the encryption in transit and
of the networks. -/
def keysToSettings : List Key :=
  [.enter, .down, .enter, .down, .enter, .down, .enter, .char 'n', .down, .down, .enter, .down,
    .enter]

/-- The rule for the object gateway can have something to change: keys alone switch on all three
settings whose rows are there. -/
theorem not_rules_hold_after :
    let s := ((Screen.new {} .builtins).after ((noFiles, .inventory (.ok .threeDisks)) ::
      (keysToCapacity ++ keysToSettings).map fun k => (noFiles, .key k))).session.state
    s.isMcg = true ∧ ¬ ClusterSetting.taint.off s ∧ ¬ ClusterSetting.inTransit.off s ∧
      ¬ ClusterSetting.networks.off s ∧ s.clearMcgIncompatible ≠ s := by
  intro s
  obtain ⟨hm, htaint, htransit, hnetworks⟩ : s.isMcg = true ∧ s.capacity.enableTaint = true ∧
      s.security.encryption.inTransit = true ∧ s.security.networkType = .multus := by
    decide +kernel
  refine ⟨hm, fun h => ?_, fun h => ?_, fun h => ?_, fun h => ?_⟩
  · exact Bool.false_ne_true (h.symm.trans htaint)
  · exact Bool.false_ne_true (h.symm.trans htransit)
  · exact absurd (hnetworks.symm.trans h.1) (by decide)
  · have hoff := State.clearMcgIncompatible_eq_iff.mp h hm .taint
    exact Bool.false_ne_true (hoff.symm.trans htaint)

end Screen

end StorageSetup
