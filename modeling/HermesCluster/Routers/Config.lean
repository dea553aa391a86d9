import HermesCluster.Models

/-!
# The config router

`update_config` and `get_config` of `hermes_cluster/routers/config.py`, over the config part of
either store and the file the config is saved to.  JSON, YAML and `model_dump` are the
parameters of a `ConfigCodec`; how opening and writing the file go is an input of the request.

`refused_changes_nothing_iff`: the store is written before the file, so a request that is
refused because the file cannot be saved has changed what `get_config` returns, and a write
that fails after the file is opened has truncated it.
-/

namespace HermesCluster

/-! ### `ConfigJSON` -/

structure ClusterConfigJSON where
  id : String := "cluster_default"
  role : String := "main"
  endpoint : String := ""
  token : String := ""
deriving DecidableEq, Repr

structure NodeConfigJSON where
  id : String := "node_main"
  name : String := "main-node"
  capabilities : List Capability := []
deriving DecidableEq, Repr

structure ServerConfigJSON where
  bind : String := "0.0.0.0"
  port : Int := 8787
deriving DecidableEq, Repr

structure LeaseConfigJSON where
  ttl : String := "60s"
  scanRate : String := "10s"
deriving DecidableEq, Repr

structure WatchdogConfigJSON where
  checkInterval : String := "5s"
  degradedAfter : String := "15s"
  offlineAfter : String := "30s"
deriving DecidableEq, Repr

structure TLSConfigJSON where
  enabled : Bool := false
  certFile : String := ""
  keyFile : String := ""
deriving DecidableEq, Repr

structure HeartbeatConfigJSON where
  interval : String := "30s"
  leaseTimeout : String := "120s"
deriving DecidableEq, Repr

/-- The floats are modelled as a load is. -/
structure ReconnectConfigJSON where
  initialInterval : String := "1s"
  maxInterval : String := "60s"
  multiplier : Load := .num 2
deriving DecidableEq

structure FederationConfigJSON where
  enabled : Bool := true
  pingInterval : String := "30s"
  token : String := ""
deriving DecidableEq, Repr

structure TelemetryConfigJSON where
  enabled : Bool := false
  exporter : String := "otlp"
  endpoint : String := ""
  serviceName : String := "hermes-cluster"
  sampleRate : Load := .num 1
  batchTimeout : String := "5s"
deriving DecidableEq

structure ConfigJSON where
  cluster : ClusterConfigJSON := {}
  node : NodeConfigJSON := {}
  server : ServerConfigJSON := {}
  lease : LeaseConfigJSON := {}
  watchdog : WatchdogConfigJSON := {}
  tls : TLSConfigJSON := {}
  heartbeat : HeartbeatConfigJSON := {}
  reconnect : ReconnectConfigJSON := {}
  federation : FederationConfigJSON := {}
  telemetry : TelemetryConfigJSON := {}
deriving DecidableEq

/-! ### The stores -/

/-- What turns a config into a dictionary, and that into text. -/
structure ConfigCodec (κ : Type) where
  modelDump : ConfigJSON → κ
  jsonDumps : κ → String
  /-- `none` for the text `null` -/
  jsonLoads : String → Option κ
  yamlDump : κ → String

/-- The config part of a store. -/
inductive ConfigStore (κ : Type)
  | clusterState (config : Option κ) (configPath : String)
  /-- The attribute `_config` and the value of the row `cluster_config`. -/
  | clusterStore (config : Option κ) (row : Option String) (configPath : String)
deriving DecidableEq

namespace ConfigStore

variable {κ : Type} (c : ConfigCodec κ)

/-- `get_config`; a `ClusterStore` keeps what it has read. -/
def getConfig : ConfigStore κ → Option κ × ConfigStore κ
  | clusterState config configPath => (config, clusterState config configPath)
  | clusterStore config none configPath => (config, clusterStore config none configPath)
  | clusterStore _ (some value) configPath =>
    (c.jsonLoads value, clusterStore (c.jsonLoads value) (some value) configPath)

def setConfig (config : κ) : ConfigStore κ → ConfigStore κ
  | clusterState _ configPath => clusterState (some config) configPath
  | clusterStore _ _ configPath =>
    clusterStore (some config) (some (c.jsonDumps config)) configPath

def getConfigPath : ConfigStore κ → String
  | clusterState _ configPath => configPath
  | clusterStore _ _ configPath => configPath

/-- `_current_config` -/
def currentConfig (s : ConfigStore κ) : κ := (s.getConfig c).1.getD (c.modelDump {})

/-- A config as the store gives it back. -/
def readBack (config : κ) : ConfigStore κ → κ
  | clusterState _ _ => config
  | clusterStore _ _ _ => (c.jsonLoads (c.jsonDumps config)).getD (c.modelDump {})

variable {c} {s : ConfigStore κ}

theorem currentConfig_setConfig (config : κ) :
    (s.setConfig c config).currentConfig c = s.readBack c config := by
  cases s with
  | clusterState _ _ => rfl
  | clusterStore _ _ _ => rfl

theorem getConfigPath_setConfig (config : κ) :
    (s.setConfig c config).getConfigPath = s.getConfigPath := by
  cases s with
  | clusterState _ _ => rfl
  | clusterStore _ _ _ => rfl

end ConfigStore

/-! ### The requests -/

/-- How opening and writing the file go. -/
inductive FileOutcome
  | saved
  | openError (message : String)
  /-- The first `written` characters are in the file when the error comes. -/
  | writeError (written : Nat) (message : String)
deriving DecidableEq, Repr

/-- An `HTTPException` of `update_config`, with its status 422 or 500. -/
inductive ConfigRefusal
  | invalid (validationErrors : List String)
  | notSaved (detail : String)
deriving DecidableEq, Repr

structure ConfigRouter (κ : Type) where
  store : ConfigStore κ
  configPath : String := ""
  /-- The content of the config file. -/
  file : Option String := none
deriving DecidableEq

namespace ConfigRouter

/-- `_validate_config`; the dictionary of a `ConfigJSON` has all its keys. -/
def validateConfig (cfg : ConfigJSON) : List String :=
  (if cfg.cluster.id = "" then ["cluster.id is required"] else []) ++
  (if cfg.node.id = "" then ["node.id is required"] else []) ++
  (if cfg.server.port < 1 ∨ cfg.server.port > 65535 then
    ["server.port must be 1-65535, got " ++ toString cfg.server.port] else []) ++
  (if cfg.cluster.role ≠ "main" ∧ cfg.cluster.role ≠ "worker" then
    ["cluster.role must be 'main' or 'worker', got '" ++ cfg.cluster.role ++ "'"] else []) ++
  (if cfg.cluster.role = "worker" ∧ cfg.cluster.endpoint = "" then
    ["cluster.endpoint is required for worker nodes"] else [])

variable {κ : Type} (c : ConfigCodec κ)

/-- The path the config is saved to, empty for none. -/
def path (r : ConfigRouter κ) : String :=
  if r.configPath ≠ "" then r.configPath else r.store.getConfigPath

/-- What is in the file after the attempt to save the dictionary. -/
def fileAfter (r : ConfigRouter κ) (config : κ) : FileOutcome → Option String
  | .saved => some (c.yamlDump config)
  | .openError _ => r.file
  | .writeError written _ => some (String.ofList ((c.yamlDump config).toList.take written))

/-- `update_config` -/
def updateConfig (r : ConfigRouter κ) (cfg : ConfigJSON) (outcome : FileOutcome) :
    Except ConfigRefusal κ × ConfigRouter κ :=
  let config := c.modelDump cfg
  let errors := validateConfig cfg
  if errors ≠ [] then (.error (.invalid errors), r)
  else
    let r := { r with store := r.store.setConfig c config }
    if r.path = "" then (.ok config, r)
    else
      let saved := { r with file := r.fileAfter c config outcome }
      let failed (message : String) : ConfigRefusal :=
        .notSaved ("failed to save config to " ++ r.path ++ ": " ++ message)
      match outcome with
      | .saved => (.ok config, saved)
      | .openError message => (.error (failed message), saved)
      | .writeError _ message => (.error (failed message), saved)

/-- `get_config`, the request without `defaults`. -/
def getConfig (r : ConfigRouter κ) : κ := r.store.currentConfig c

/-- An update that is refused leaves the config and the file as they were. -/
def RefusedChangesNothing (r : ConfigRouter κ) (cfg : ConfigJSON) (outcome : FileOutcome) :
    Prop :=
  ∀ e, (r.updateConfig c cfg outcome).1 = .error e →
    (r.updateConfig c cfg outcome).2.getConfig c = r.getConfig c ∧
      (r.updateConfig c cfg outcome).2.file = r.file

variable {c} {r : ConfigRouter κ} {cfg : ConfigJSON} {outcome : FileOutcome}

theorem updateConfig_invalid (h : validateConfig cfg ≠ []) :
    r.updateConfig c cfg outcome = (.error (.invalid (validateConfig cfg)), r) := by
  rw [updateConfig]
  exact if_pos h

/-- The store after the update, before the file is opened. -/
def stored (c : ConfigCodec κ) (r : ConfigRouter κ) (cfg : ConfigJSON) : ConfigRouter κ :=
  { r with store := r.store.setConfig c (c.modelDump cfg) }

theorem path_stored : (r.stored c cfg).path = r.path := by
  rw [path, path]
  show (if r.configPath ≠ "" then _ else (r.store.setConfig c _).getConfigPath) = _
  rw [ConfigStore.getConfigPath_setConfig]
  rfl

theorem getConfig_stored : (r.stored c cfg).getConfig c = r.store.readBack c (c.modelDump cfg) :=
  ConfigStore.currentConfig_setConfig (c.modelDump cfg)

theorem updateConfig_noPath (h : validateConfig cfg = []) (hp : r.path = "") :
    r.updateConfig c cfg outcome = (.ok (c.modelDump cfg), r.stored c cfg) := by
  rw [updateConfig]
  dsimp only
  rw [if_neg (not_not.mpr h)]
  exact if_pos (path_stored.trans hp)

/-- With a path the file is written last. -/
theorem updateConfig_path (outcome : FileOutcome) (h : validateConfig cfg = [])
    (hp : r.path ≠ "") :
    (r.updateConfig c cfg outcome).2.store = (r.stored c cfg).store ∧
      (r.updateConfig c cfg outcome).2.file = r.fileAfter c (c.modelDump cfg) outcome ∧
      ((∃ e, (r.updateConfig c cfg outcome).1 = .error e) ↔ outcome ≠ .saved) := by
  have hpath : ¬ (r.stored c cfg).path = "" := fun he => hp (path_stored.symm.trans he)
  rw [stored] at hpath
  rw [updateConfig]
  dsimp only
  rw [if_neg (not_not.mpr h), if_neg hpath]
  cases outcome with
  | saved => exact ⟨rfl, rfl, iff_of_false (fun ⟨e, he⟩ => by cases he) (not_not.mpr rfl)⟩
  | openError message => exact ⟨rfl, rfl, iff_of_true ⟨_, rfl⟩ fun h => by cases h⟩
  | writeError written message => exact ⟨rfl, rfl, iff_of_true ⟨_, rfl⟩ fun h => by cases h⟩

/-- **A refused update** changes nothing exactly if the config is invalid, or the file can be
saved or there is none, or neither the config nor the file is new. -/
theorem refused_changes_nothing_iff (c : ConfigCodec κ) (r : ConfigRouter κ) (cfg : ConfigJSON)
    (outcome : FileOutcome) :
    r.RefusedChangesNothing c cfg outcome ↔
      validateConfig cfg ≠ [] ∨ r.path = "" ∨ outcome = .saved ∨
        (r.store.readBack c (c.modelDump cfg) = r.getConfig c ∧
          r.fileAfter c (c.modelDump cfg) outcome = r.file) := by
  by_cases hvalid : validateConfig cfg = []
  · rw [or_iff_right (not_not.mpr hvalid)]
    by_cases hp : r.path = ""
    · refine iff_of_true (fun e he => ?_) (Or.inl hp)
      rw [updateConfig_noPath hvalid hp] at he
      cases he
    · obtain ⟨hstore, hfile, herror⟩ := updateConfig_path (c := c) (r := r) outcome hvalid hp
      have hget : (r.updateConfig c cfg outcome).2.getConfig c =
          r.store.readBack c (c.modelDump cfg) := by
        rw [getConfig, hstore]
        exact getConfig_stored
      rw [or_iff_right hp, RefusedChangesNothing, hget, hfile, ← exists_imp, herror]
      exact imp_iff_not_or.trans (or_congr_left not_not)
  · refine iff_of_true (fun e he => ?_) (Or.inl hvalid)
    rw [updateConfig_invalid hvalid]
    exact ⟨rfl, rfl⟩

/-! ### A file that cannot be saved -/

/-- The dictionary of a config is the config here, and no text of it is read. -/
def plainCodec : ConfigCodec ConfigJSON where
  modelDump := id
  jsonDumps _ := ""
  jsonLoads _ := none
  yamlDump _ := ""

/-- A fresh store with a config file. -/
def savedRouter : ConfigRouter ConfigJSON :=
  { store := .clusterState none "", configPath := "cluster.yaml"
    file := some "node:\n  name: main-node\n" }

def renamed : ConfigJSON := { node := { name := "spare-node" } }

/-- The refused request renames the node, and one that fails while it writes empties the
file. -/
theorem refused_update_kept :
    (savedRouter.updateConfig plainCodec renamed (.openError "[Errno 13] Permission denied")).1 =
        .error (.notSaved "failed to save config to cluster.yaml: [Errno 13] Permission denied") ∧
      ((savedRouter.updateConfig plainCodec renamed
        (.openError "[Errno 13] Permission denied")).2.getConfig plainCodec).node.name =
        "spare-node" ∧
      (savedRouter.updateConfig plainCodec renamed
        (.writeError 0 "[Errno 28] No space left on device")).2.file = some "" ∧
      ¬ savedRouter.RefusedChangesNothing plainCodec renamed
        (.openError "[Errno 13] Permission denied") := by
  refine ⟨by decide +kernel, by decide +kernel, by decide +kernel, fun h => ?_⟩
  have hsame := (h _ rfl).1
  exact absurd hsame (by decide +kernel)

end ConfigRouter

end HermesCluster
