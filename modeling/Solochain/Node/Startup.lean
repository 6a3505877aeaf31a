import Solochain.Library.Script
import Solochain.Node.PurgeChain

/-!
The start of a full node: which tasks it spawns in which order, and what is left of
that when a step fails.

Whether a step of another crate fails is left open. A node whose start fails gives
back no task manager, and its tasks end with that.
-/
namespace Solochain
namespace Startup
open Script

inductive Sealing
  | manual
  | instant
  deriving DecidableEq

structure NodeConfig where
  authority : Bool
  sealing : Option Sealing
  disableGrandpa : Bool
  offchainWorker : Bool
  telemetryEndpoints : Bool
  frontierBackend : PurgeChain.BackendType
  deriving DecidableEq

/-- What can end the start: a `?`, or a panic of the database of Frontier. -/
inductive Step
  | telemetryWorker
  | fullParts
  | grandpaBlockImport
  | frontierBackend
  | importQueue
  | genesisHash
  | network
  | rpcTasks
  | babe
  | grandpaVoter
  deriving DecidableEq

inductive Task
  | telemetry
  | offchainWorkersRunner
  | frontierMappingSyncWorker
  | frontierFilterPool
  | frontierFeeHistory
  | manualSeal (sealing : Sealing)
  | babeProposer
  | grandpaVoter (keystore : Bool)
  deriving DecidableEq

/-- The node ends with an essential task. -/
structure Spawn where
  task : Task
  essential : Bool
  blocking : Bool
  deriving DecidableEq

inductive Effect
  | spawn (spawn : Spawn)
  | addGrandpaProtocol
  | buildNetwork (warpSync : Bool)
  | serveRpc (engine : Bool)
  | startNetwork
  deriving DecidableEq

abbrev Start := List (Action Step Effect)

def spawn (task : Task) (essential blocking : Bool) : Action Step Effect :=
  .emit (.spawn { task := task, essential := essential, blocking := blocking })

def newPartial (config : NodeConfig) : Start :=
  (if config.telemetryEndpoints then [.attempt .telemetryWorker] else []) ++
    [.attempt .fullParts] ++
    (if config.telemetryEndpoints then [spawn .telemetry false false] else []) ++
    [.attempt .grandpaBlockImport, .attempt .frontierBackend, .attempt .importQueue]

def spawnFrontierTasks (frontierBackend : PurgeChain.BackendType) : Start :=
  [match frontierBackend with
    | .keyValue => spawn .frontierMappingSyncWorker true false
    | .sql => spawn .frontierMappingSyncWorker true true,
    spawn .frontierFilterPool true false, spawn .frontierFeeHistory true false]

def runManualSealAuthorship (sealing : Sealing) : Start := [spawn (.manualSeal sealing) true true]

def startBabe : Start := [.attempt .babe, spawn .babeProposer true true]

def enableGrandpa (config : NodeConfig) : Bool := !config.disableGrandpa && config.sealing.isNone

def runGrandpaVoter (config : NodeConfig) : Start :=
  if enableGrandpa config then
    [.attempt .grandpaVoter, spawn (.grandpaVoter config.authority) true true]
  else []

/-- From the registration of the protocols to the RPC server. -/
def buildNetwork (config : NodeConfig) : Start :=
  [.attempt .genesisHash] ++
    (if config.sealing.isSome then [] else [.emit .addGrandpaProtocol]) ++
    [.attempt .network, .emit (.buildNetwork config.sealing.isNone)] ++
    (if config.offchainWorker then [spawn .offchainWorkersRunner false false] else []) ++
    [.attempt .rpcTasks, .emit (.serveRpc config.sealing.isSome)]

def runConsensus (config : NodeConfig) : Start :=
  if config.authority then
    match config.sealing with
    -- returns before the GRANDPA voter, after a start of the network of its own
    | some sealing => runManualSealAuthorship sealing
    | none => startBabe ++ runGrandpaVoter config
  else runGrandpaVoter config

def prepare (config : NodeConfig) : Start :=
  newPartial config ++ buildNetwork config ++ spawnFrontierTasks config.frontierBackend ++
    runConsensus config

def newFull (config : NodeConfig) : Start := prepare config ++ [.emit .startNetwork]

def Effect.task : Effect → Option Task
  | .spawn s => some s.task
  | _ => none

def tasks (trace : List Effect) : List Task := trace.filterMap Effect.task

def Task.authors : Task → Bool
  | .manualSeal _ | .babeProposer => true
  | _ => false

def Task.essential : Task → Bool
  | .telemetry | .offchainWorkersRunner => false
  | _ => true

def Task.blocking (config : NodeConfig) : Task → Bool
  | .frontierMappingSyncWorker => config.frontierBackend = .sql
  | .manualSeal _ | .babeProposer | .grandpaVoter _ => true
  | _ => false

/-- The node is configured for the task. -/
def Task.Fits (config : NodeConfig) : Task → Prop
  | .telemetry => config.telemetryEndpoints = true
  | .offchainWorkersRunner => config.offchainWorker = true
  | .frontierMappingSyncWorker | .frontierFilterPool | .frontierFeeHistory => True
  | .manualSeal sealing => config.authority = true ∧ config.sealing = some sealing
  | .babeProposer => config.authority = true ∧ config.sealing = none
  | .grandpaVoter keystore => enableGrandpa config = true ∧ keystore = config.authority

instance (config : NodeConfig) (task : Task) : Decidable (task.Fits config) := by
  cases task <;> dsimp only [Task.Fits] <;> infer_instance

def Effect.Fits (config : NodeConfig) : Effect → Prop
  | .spawn s =>
      s.essential = s.task.essential ∧ s.blocking = s.task.blocking config ∧ s.task.Fits config
  | .addGrandpaProtocol => config.sealing = none
  | .buildNetwork warpSync => warpSync = config.sealing.isNone
  | .serveRpc engine => engine = config.sealing.isSome
  | .startNetwork => True

instance (config : NodeConfig) (effect : Effect) : Decidable (effect.Fits config) := by
  cases effect <;> dsimp only [Effect.Fits] <;> infer_instance

/-- The start in this configuration comes to the step, unless an earlier one fails. -/
def Step.Needed (config : NodeConfig) : Step → Prop
  | .telemetryWorker => config.telemetryEndpoints = true
  | .babe => config.authority = true ∧ config.sealing = none
  | .grandpaVoter => enableGrandpa config = true
  | .fullParts | .grandpaBlockImport | .frontierBackend | .importQueue | .genesisHash | .network
  | .rpcTasks => True

instance (config : NodeConfig) (step : Step) : Decidable (step.Needed config) := by
  cases step <;> dsimp only [Step.Needed] <;> infer_instance

def voter (config : NodeConfig) : Effect :=
  .spawn { task := .grandpaVoter config.authority, essential := true, blocking := true }

theorem forall_config {P : NodeConfig → Prop}
    (each : ∀ sealing ∈ [none, some .manual, some .instant],
      ∀ frontierBackend ∈ [.keyValue, .sql], ∀ a d o t : Bool,
        P { authority := a
            sealing := sealing
            disableGrandpa := d
            offchainWorker := o
            telemetryEndpoints := t
            frontierBackend := frontierBackend })
    (config : NodeConfig) : P config := by
  obtain ⟨a, sealing, d, o, t, frontierBackend⟩ := config
  refine each sealing ?_ frontierBackend ?_ a d o t
  · obtain _ | sealing := sealing
    · decide
    · cases sealing <;> decide
  · cases frontierBackend <;> decide

/-! What the whole script would do, in each configuration. -/

theorem start_not_mem_prepare : ∀ config, Effect.startNetwork ∉ effects (prepare config) :=
  forall_config (by decide +kernel)

theorem nodup_newFull : ∀ config, (effects (newFull config)).Nodup :=
  forall_config (by decide +kernel)

theorem fits_newFull : ∀ config, ∀ effect ∈ effects (newFull config), effect.Fits config :=
  forall_config (by decide +kernel)

theorem authors_newFull :
    ∀ config, ((tasks (effects (newFull config))).filter Task.authors).length ≤ 1 :=
  forall_config (by decide +kernel)

theorem voter_newFull : ∀ config,
    ∀ before ∈ [.addGrandpaProtocol, .buildNetwork true, .serveRpc false],
      Precedes before (voter config) (effects (newFull config)) = true :=
  forall_config (by decide +kernel)

theorem mem_tasks_newFull (task : Task) :
    ∀ config, task.Fits config → task ∈ tasks (effects (newFull config)) := by
  cases task with
  | manualSeal sealing => cases sealing <;> exact forall_config (by decide +kernel)
  | grandpaVoter keystore => cases keystore <;> exact forall_config (by decide +kernel)
  | _ => exact forall_config (by decide +kernel)

theorem mem_steps_newFull (step : Step) :
    ∀ config, step ∈ steps (newFull config) ↔ step.Needed config := by
  cases step <;> exact forall_config (by decide +kernel)

/-- What holds of a start, whichever of its steps fail. -/
structure Laws (config : NodeConfig) (fails : Step → Bool) (start : Outcome Effect) : Prop where
  completes : start.completed = true ↔ ∀ step : Step, step.Needed config → fails step = false
  started : .startNetwork ∈ start.trace ↔ start.completed = true
  last : ∀ before after, start.trace = before ++ .startNetwork :: after → after = []
  nodup : start.trace.Nodup
  fits : ∀ effect ∈ start.trace, effect.Fits config
  oneAuthor : ((tasks start.trace).filter Task.authors).length ≤ 1
  voterAfter : ∀ before s after keystore, start.trace = before ++ .spawn s :: after →
    s.task = .grandpaVoter keystore →
      .addGrandpaProtocol ∈ before ∧ .buildNetwork true ∈ before ∧ .serveRpc false ∈ before
  complete : start.completed = true → ∀ task, task ∈ tasks start.trace ↔ task.Fits config

theorem Effect.Fits.eq_voter {config : NodeConfig} {s : Spawn} {keystore : Bool}
    (fits : Effect.Fits config (.spawn s)) (task : s.task = .grandpaVoter keystore) :
    Effect.spawn s = voter config := by
  obtain ⟨_, essential, blocking⟩ := s
  obtain rfl := task
  obtain ⟨same, same', _, same''⟩ := fits
  dsimp only at same same'
  rw [same, same', same'']
  rfl

theorem newFull_laws (config : NodeConfig) (fails : Step → Bool) :
    Laws config fails (exec fails (newFull config)) := by
  have begins : (exec fails (newFull config)).trace <+: effects (newFull config) :=
    trace_begins _
  have fits : ∀ effect ∈ (exec fails (newFull config)).trace, effect.Fits config :=
    fun effect done => fits_newFull config effect (begins.subset done)
  refine ⟨?_, ?_, ?_, ?_, fits, ?_, ?_, ?_⟩
  · rw [completed_iff]
    exact forall_congr' fun step => imp_congr (mem_steps_newFull step config) Iff.rfl
  · exact mem_trace_concat_iff (start_not_mem_prepare config)
  · exact fun before after => eq_nil_of_trace_concat (start_not_mem_prepare config)
  · exact (nodup_newFull config).sublist begins.sublist
  · have fewer := ((begins.sublist.filterMap Effect.task).filter Task.authors).length_le
    exact fewer.trans (authors_newFull config)
  · intro before s after keystore trace task
    have spawned : .spawn s ∈ (exec fails (newFull config)).trace :=
      trace ▸ List.mem_append_right before List.mem_cons_self
    rw [(fits _ spawned).eq_voter task] at trace
    have first {effect : Effect} (listed : effect ∈
        [Effect.addGrandpaProtocol, .buildNetwork true, .serveRpc false])
        (other : voter config ≠ effect) : effect ∈ before := by
      have ordered := precedes_begins begins (voter_newFull config effect listed)
      rw [trace] at ordered
      exact mem_of_precedes other ordered
    exact ⟨first (by decide) (by simp [voter]), first (by decide) (by simp [voter]),
      first (by decide) (by simp [voter])⟩
  · intro completed task
    rw [trace_of_completed completed]
    constructor
    · intro spawned
      obtain ⟨effect, listed, same⟩ := List.mem_filterMap.mp spawned
      cases effect with
      | spawn s =>
          cases same
          exact (fits_newFull config _ listed).2.2
      | _ => cases same
    · exact mem_tasks_newFull task config

end Startup
end Solochain
