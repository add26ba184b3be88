import StorageSetup.Wizard.Action
/-!
# Applying actions

`reduce` gives the settings after an action. All actions write one slice, except the two mode
changes, on which other slices depend: once the first step has been left they reset the dependent
slices, before that they adjust them in place, and in both cases the consistency rules follow.

Key definitions:
- `reduce`: the settings after an action
- `ModeChange`, `applyModeChange`: the two changes other slices depend on
- `normalizers`: the consistency rules
-/

namespace StorageSetup

/-- A change of one of the choices that other slices depend on. -/
inductive ModeChange where
  | backingType (value : BackingType)
  | deployment (value : Deployment)
  deriving DecidableEq, Repr

namespace State

/-- Writes the changed choice and nothing else. -/
def setMode (s : State) : ModeChange → State
  | .backingType t => { s with backingStorage := { s.backingStorage with type := t } }
  | .deployment d => { s with backingStorage := { s.backingStorage with deployment := d } }

/-- A vendor is chosen in external mode only. -/
def clearExternalStorage (s : State) : State :=
  if s.backingStorage.type = .external then s
  else { s with backingStorage := { s.backingStorage with externalStorage := "" } }

/-- Local and external storage use a class that is still to be created, an existing one does not. -/
def normalizeStorageClass (s : State) : State :=
  match s.backingStorage.type with
  | .existing =>
    if s.storageClass.isNoProvisioner then { s with storageClass := {} } else s
  | _ =>
    if s.storageClass.isNoProvisioner then s else { s with storageClass := .placeholder }

/-- The object gateway alone has no file service, no arbiter, no taint and no networks. -/
def clearMcgIncompatible (s : State) : State :=
  if s.backingStorage.deployment = .mcg then
    { s with
      backingStorage := { s.backingStorage with enableNfs := false, rbdClassIsDefault := false }
      capacity := { s.capacity with
        enableArbiter := false, arbiterLocation := "", enableTaint := false }
      security := { s.security with
        networkType := .pods, publicNetwork := none, clusterNetwork := none,
        encryption := { s.security.encryption with inTransit := false } } }
  else s

/-- The consistency rules in the order in which they follow a mode change. -/
def normalizers : List (State → State) :=
  [clearExternalStorage, normalizeStorageClass, clearMcgIncompatible]

/-- The settings after a mode change before the consistency rules. Past the first step only the
reached step, the two modes and, for existing storage, the class are kept. -/
def switchMode (s : State) (change : ModeChange) : State :=
  if s.hasProgressed then
    let reset : State := { State.initial with
      stepIdReached := s.stepIdReached
      backingStorage := { State.initial.backingStorage with type := s.backingStorage.type } }
    let reset := reset.setMode change
    if reset.backingStorage.type = .existing then { reset with storageClass := s.storageClass }
    else reset
  else s.setMode change

/-- The settings after a mode change. -/
def applyModeChange (s : State) (change : ModeChange) : State :=
  normalizers.foldl (fun s rule => rule s) (s.switchMode change)

end State

/-- The form after a change of one of its fields. -/
def LocalVolumeForm.apply (f : LocalVolumeForm) : VolumeChange → LocalVolumeForm
  | .name v => { f with name := v }
  | .diskType v => { f with diskType := v }
  | .deviceTypes v => { f with deviceTypes := v }
  | .minDiskSize v => { f with minDiskSize := v }
  | .maxDiskSize v => { f with maxDiskSize := v }
  | .sizeUnit v => { f with sizeUnit := v }
  | .maxDiskLimit v => { f with maxDiskLimit := v }
  | .selectNodes v => { f with selectNodes := v }
  | .selectedNodes v => { f with selectedNodes := v }
  | .chartNodes v => { f with chartNodes := v }

/-- The settings with another external database. -/
def State.mapPostgres (s : State) (f : Postgres → Postgres) : State :=
  { s with backingStorage := { s.backingStorage with postgres := f s.backingStorage.postgres } }

/-- The settings with another protection of the connection to the external database. -/
def State.mapPostgresTls (s : State) (f : PostgresTls → PostgresTls) : State :=
  s.mapPostgres fun p => { p with tls := f p.tls }

/-- The settings after an action. -/
def reduce (s : State) : Action → State
  | .setStepIdReached id => { s with stepIdReached := max s.stepIdReached id }
  | .setStorageClass v => { s with storageClass := v }
  | .setNodes v => { s with nodes := v }
  | .setCreateStorageClass c =>
    { s with createStorageClass := s.createStorageClass.insert c.field c.value }
  | .setConnectionDetails c =>
    { s with connectionDetails := s.connectionDetails.insert c.field c.value }
  | .setLocalVolumes c => { s with localVolumes := s.localVolumes.apply c }
  | .setBackingType v => s.applyModeChange (.backingType v)
  | .setDeployment v => s.applyModeChange (.deployment v)
  | .enableNfs v => { s with backingStorage := { s.backingStorage with enableNfs := v } }
  | .setRbdClassDefault v =>
    { s with backingStorage := { s.backingStorage with rbdClassIsDefault := v } }
  | .setExternalStorage v =>
    { s with backingStorage := { s.backingStorage with externalStorage := v } }
  | .useExternalPostgres v =>
    { s with backingStorage := { s.backingStorage with useExternalPostgres := v } }
  | .setPostgresUsername v => s.mapPostgres fun p => { p with username := v }
  | .setPostgresPassword v => s.mapPostgres fun p => { p with password := v }
  | .setPostgresServerName v => s.mapPostgres fun p => { p with serverName := v }
  | .setPostgresPort v => s.mapPostgres fun p => { p with port := v }
  | .setPostgresDatabaseName v => s.mapPostgres fun p => { p with databaseName := v }
  | .setPostgresTls v => s.mapPostgresTls fun t => { t with enabled := v }
  | .setPostgresAllowSelfSigned v => s.mapPostgresTls fun t => { t with allowSelfSigned := v }
  | .setPostgresClientCerts v => s.mapPostgresTls fun t => { t with clientCerts := v }
  | .setPostgresKeys v => s.mapPostgresTls fun t => { t with keys := v }
  | .setCapacity v => { s with capacity := { s.capacity with capacity := v } }
  | .setPvCount v => { s with capacity := { s.capacity with pvCount := v } }
  | .enableArbiter v =>
    { s with capacity := { s.capacity with
        enableArbiter := v
        arbiterLocation := if v then s.capacity.arbiterLocation else "" } }
  | .setArbiterLocation v => { s with capacity := { s.capacity with arbiterLocation := v } }
  | .enableTaint v => { s with capacity := { s.capacity with enableTaint := v } }
  | .setResourceProfile v => { s with capacity := { s.capacity with resourceProfile := v } }
  | .setEncryption v => { s with security := { s.security with encryption := v } }
  | .setKms v => { s with security := { s.security with kms := v } }
  | .setNetworkType v => { s with security := { s.security with networkType := v } }
  | .setPublicNetwork v => { s with security := { s.security with publicNetwork := v } }
  | .setClusterNetwork v => { s with security := { s.security with clusterNetwork := v } }
  | .enableRdrPreparation v =>
    { s with dataProtection := { s.dataProtection with enableRdrPreparation := v } }

/-- The settings after several actions in order. -/
def reduceAll (s : State) (actions : List Action) : State :=
  actions.foldl reduce s

end StorageSetup
