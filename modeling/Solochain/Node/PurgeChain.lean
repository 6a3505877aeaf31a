import Solochain.Library.FileTree
import Solochain.Library.FixedBytes
import Solochain.Library.Machine

/-!
The databases of a node on disk, and the command that purges them.

A node opens the database of its chain and that of Frontier, both below the directory
of its chain id. Where other crates put the databases, how they purge one of them and
what the file system does meanwhile are parameters with the laws that the node
relies on.
-/
namespace Solochain
namespace PurgeChain
open FileTree (AgreeOn AgreeOff Apart Cleared Confined)

abbrev Path := List String

abbrev Files := FileTree.Files String Bytes

inductive DatabaseSource
  | auto (paritydbPath rocksdbPath : Path) (cacheSize : Nat)
  | rocksDb (path : Path) (cacheSize : Nat)
  | parityDb (path : Path)
  | custom (requireCreateFlag : Bool)
  deriving DecidableEq

namespace DatabaseSource

def path : DatabaseSource → Option Path
  | auto paritydbPath _ _ => some paritydbPath
  | rocksDb path _ | parityDb path => some path
  | custom _ => none

/-- Where a database that is opened from the source may lie. -/
def places : DatabaseSource → List Path
  | auto paritydbPath rocksdbPath _ => [paritydbPath, rocksdbPath]
  | rocksDb path _ | parityDb path => [path]
  | custom _ => []

/-- The sources for which the command knows the database of Frontier. -/
def Plain : DatabaseSource → Prop
  | rocksDb _ _ | parityDb _ => True
  | auto _ _ _ | custom _ => False

end DatabaseSource

inductive BackendType
  | keyValue
  | sql
  deriving DecidableEq

/-- Where other crates put the databases. -/
structure Layout where
  configDir : Path → String → Path
  frontierDatabaseDir : Path → String → Path
  /-- `fc_db::kv::Backend::open` -/
  kvSource : DatabaseSource → Path → Option DatabaseSource
  configDir_apart : ∀ basePath {id id' : String}, id ≠ id' →
    Apart (configDir basePath id) (configDir basePath id')
  frontierDatabaseDir_inside : ∀ dir name, dir <+: (frontierDatabaseDir dir name).dropLast
  frontierDatabaseDir_apart : ∀ dir name,
    Apart (frontierDatabaseDir dir name).dropLast (dir ++ ["sql"])
  kvSource_rocksDb : ∀ path cacheSize dir, kvSource (.rocksDb path cacheSize) dir =
    some (.rocksDb (frontierDatabaseDir dir "db") 0)
  kvSource_parityDb : ∀ path dir, kvSource (.parityDb path) dir =
    some (.parityDb (frontierDatabaseDir dir "paritydb"))
  kvSource_auto : ∀ paritydbPath rocksdbPath cacheSize dir,
    kvSource (.auto paritydbPath rocksdbPath cacheSize) dir =
      some (.auto (frontierDatabaseDir dir "paritydb") (frontierDatabaseDir dir "db") 0)
  kvSource_custom : ∀ requireCreateFlag dir, kvSource (.custom requireCreateFlag) dir = none

/-- Every database has a directory of its own below that of the chain id. -/
structure Configuration (L : Layout) (basePath : Path) where
  chainId : String
  database : DatabaseSource
  inside : ∀ path ∈ database.places, L.configDir basePath chainId <+: path.dropLast
  apartSql : ∀ path ∈ database.places,
    Apart path.dropLast (L.configDir basePath chainId ++ ["sql"])
  apartFrontier : ∀ path ∈ database.places, ∀ name,
    Apart path.dropLast (L.frontierDatabaseDir (L.configDir basePath chainId) name).dropLast

inductive IoError
  | notFound
  | other (message : String)
  deriving DecidableEq

inductive CommandError
  /-- "Cannot purge `{:?}` database" -/
  | cannotPurge (source : DatabaseSource)
  /-- "Cannot purge `{:?}` database: {:?}" -/
  | cannotPurgeAt (path : Path) (err : IoError)
  | cli (message : String)
  deriving DecidableEq

abbrev Outcome := Except CommandError Unit × Files

/-- `PurgeChainCmd::run` and `remove_dir_all`. What the user answers and what the disk
does is part of the occasion. -/
structure Tools (ω : Type) where
  confirms : ω → Bool
  run : ω → DatabaseSource → Files → Outcome
  removeDirAll : ω → Path → Files → Except IoError Unit × Files
  run_confined : ∀ w {source path}, source.path = some path →
    Confined path.dropLast (run w source)
  run_custom : ∀ w {source}, source.path = none →
    ∃ e, ∀ files, run w source files = (.error e, files)
  run_declined : ∀ {w}, confirms w = false → ∀ source files, (run w source files).2 = files
  run_cleared : ∀ {w}, confirms w = true → ∀ {source path files}, source.path = some path →
    (run w source files).1 = .ok () → Cleared path (run w source files).2
  removeDirAll_confined : ∀ w path, Confined path (removeDirAll w path)
  removeDirAll_cleared : ∀ w path files,
    (removeDirAll w path files).1 = .ok () ∨ (removeDirAll w path files).1 = .error .notFound →
      Cleared path (removeDirAll w path files).2

/-- The second step is made only after the first one has succeeded. -/
def andThen (first second : Files → Outcome) (files : Files) : Outcome :=
  match (first files).1 with
  | .ok () => second (first files).2
  | .error e => (.error e, (first files).2)

section Node
variable {L : Layout} {basePath : Path} (config : Configuration L basePath)

def dbConfigDir : Path := L.configDir basePath config.chainId

/-- Where `new_partial` opens the database of Frontier; it stops at a custom source. -/
def frontierPlaces : BackendType → Option (List Path)
  | .keyValue => (L.kvSource config.database (dbConfigDir config)).map DatabaseSource.places
  | .sql => some [dbConfigDir config ++ ["sql"]]

def openedPlaces (backend : BackendType) : Option (List Path) :=
  (frontierPlaces config backend).map (config.database.places ++ ·)

variable {ω : Type} (T : Tools ω)

/-- "Remove Frontier offchain db" -/
def purgeFrontier (w : ω) : BackendType → Files → Outcome
  | .keyValue =>
      match config.database with
      | .rocksDb _ _ => T.run w (.rocksDb (L.frontierDatabaseDir (dbConfigDir config) "db") 0)
      | .parityDb _ => T.run w (.parityDb (L.frontierDatabaseDir (dbConfigDir config) "paritydb"))
      | source => fun files => (.error (.cannotPurge source), files)
  | .sql => fun files =>
      let dbPath := dbConfigDir config ++ ["sql"]
      let removed := T.removeDirAll w dbPath files
      match removed.1 with
      | .ok () => (.ok (), removed.2)
      | .error .notFound => (.ok (), removed.2)
      | .error err => (.error (.cannotPurgeAt dbPath err), removed.2)

def purgeChain (first second : ω) (backend : BackendType) : Files → Outcome :=
  andThen (purgeFrontier config T first backend) (T.run second config.database)

end Node

variable {L : Layout} {basePath : Path} {ω : Type}

theorem andThen_confined {dir : Path} {first second : Files → Outcome}
    (h : Confined dir first) (h' : Confined dir second) : Confined dir (andThen first second) :=
  h.bind
    (fun result files =>
      match result with
      | .ok () => second files
      | .error e => (.error e, files))
    fun result => by
      cases result with
      | ok done => exact h'
      | error e => exact FileTree.confined_pure dir _

theorem run_confined_below (T : Tools ω) (w : ω) {dir : Path} {source : DatabaseSource}
    (below : ∀ path ∈ source.path, dir <+: path.dropLast) : Confined dir (T.run w source) := by
  cases place : source.path with
  | some path => exact (T.run_confined w place).mono (below path place)
  | none =>
      obtain ⟨e, refused⟩ := T.run_custom w place
      have pure : T.run w source = fun files => (.error e, files) := funext refused
      rw [pure]
      exact FileTree.confined_pure dir _

theorem path_mem_places {source : DatabaseSource} {path : Path} (h : source.path = some path) :
    path ∈ source.places := by
  cases source with
  | auto p r c =>
      cases h
      exact List.mem_cons_self
  | rocksDb p c | parityDb p =>
      cases h
      exact List.mem_singleton_self _
  | custom c => cases h

theorem run_agreeOn (T : Tools ω) (w : ω) {source : DatabaseSource} {dir : Path}
    (apart : ∀ path ∈ source.path, Apart path.dropLast dir) (files : Files) :
    AgreeOn dir (T.run w source files).2 files := by
  cases place : source.path with
  | some path => exact (T.run_confined w place).on_of_apart (apart path place) files
  | none =>
      obtain ⟨e, refused⟩ := T.run_custom w place
      rw [refused]
      exact fun _ _ => rfl

theorem andThen_ok {first second : Files → Outcome} {files : Files}
    (h : (andThen first second files).1 = .ok ()) :
    (first files).1 = .ok () ∧ andThen first second files = second (first files).2 := by
  rw [andThen] at h ⊢
  cases result : (first files).1 with
  | ok done => exact ⟨rfl, rfl⟩
  | error e =>
      rw [result] at h
      cases h

theorem andThen_error {first second : Files → Outcome} {files : Files} {e : CommandError}
    (h : (first files).1 = .error e) :
    andThen first second files = (.error e, (first files).2) := by
  rw [andThen, h]

theorem andThen_agreeOn {dir : Path} {first second : Files → Outcome}
    (h : ∀ files, AgreeOn dir (second files).2 files) (files : Files) :
    AgreeOn dir (andThen first second files).2 (first files).2 := by
  rw [andThen]
  cases (first files).1 with
  | ok done => exact h _
  | error e => exact fun _ _ => rfl

variable (config : Configuration L basePath) (T : Tools ω)

theorem purgeSql_confined (w : ω) :
    Confined (dbConfigDir config ++ ["sql"]) (purgeFrontier config T w .sql) :=
  (T.removeDirAll_confined w _).bind
    (fun result files =>
      match result with
      | .ok () => ((.ok (), files) : Outcome)
      | .error .notFound => (.ok (), files)
      | .error err => (.error (.cannotPurgeAt (dbConfigDir config ++ ["sql"]) err), files))
    fun result => by
      cases result with
      | ok done => exact FileTree.confined_pure _ _
      | error err =>
          cases err with
          | notFound => exact FileTree.confined_pure _ _
          | other message => exact FileTree.confined_pure _ _

/-- For the key-value backend the command purges what lies in one directory of Frontier,
or nothing. -/
theorem purgeKeyValue_cases (w : ω) :
    (∃ name, Confined (L.frontierDatabaseDir (dbConfigDir config) name).dropLast
      (purgeFrontier config T w .keyValue)) ∨
    ¬ config.database.Plain ∧ purgeFrontier config T w .keyValue =
      fun files => (.error (.cannotPurge config.database), files) := by
  rw [purgeFrontier]
  split
  · exact Or.inl ⟨"db", T.run_confined w rfl⟩
  · exact Or.inl ⟨"paritydb", T.run_confined w rfl⟩
  · rename_i notRocksDb notParityDb
    refine Or.inr ⟨?_, rfl⟩
    cases source : config.database with
    | auto p r c | custom c => exact id
    | rocksDb p c => exact absurd source (notRocksDb p c)
    | parityDb p => exact absurd source (notParityDb p)

theorem purgeFrontier_confined (w : ω) (backend : BackendType) :
    Confined (dbConfigDir config) (purgeFrontier config T w backend) := by
  cases backend with
  | sql => exact (purgeSql_confined config T w).mono (List.prefix_append _ _)
  | keyValue =>
      obtain ⟨name, confined⟩ | ⟨_, refused⟩ := purgeKeyValue_cases config T w
      · exact confined.mono (L.frontierDatabaseDir_inside _ name)
      · rw [refused]
        exact FileTree.confined_pure _ _

/-- Whatever is answered and whatever fails, the command keeps to the directory of its
chain id. -/
theorem purgeChain_confined (first second : ω) (backend : BackendType) :
    Confined (dbConfigDir config) (purgeChain config T first second backend) :=
  andThen_confined (purgeFrontier_confined config T first backend)
    (run_confined_below T second fun path place => config.inside path (path_mem_places place))

theorem frontierPlaces_cases {backend : BackendType} {places : List Path} {place : Path}
    (opened : frontierPlaces config backend = some places) (h : place ∈ places) :
    backend = .sql ∧ place = dbConfigDir config ++ ["sql"] ∨
      backend = .keyValue ∧ ∃ name, place = L.frontierDatabaseDir (dbConfigDir config) name := by
  cases backend with
  | sql =>
      cases opened
      exact Or.inl ⟨rfl, List.mem_singleton.mp h⟩
  | keyValue =>
      refine Or.inr ⟨rfl, ?_⟩
      rw [frontierPlaces] at opened
      cases source : config.database with
      | auto p r c =>
          rw [source, L.kvSource_auto] at opened
          cases opened
          obtain rfl | rfl := List.mem_pair.mp h
          · exact ⟨"paritydb", rfl⟩
          · exact ⟨"db", rfl⟩
      | rocksDb p c =>
          rw [source, L.kvSource_rocksDb] at opened
          cases opened
          exact ⟨"db", List.mem_singleton.mp h⟩
      | parityDb p =>
          rw [source, L.kvSource_parityDb] at opened
          cases opened
          exact ⟨"paritydb", List.mem_singleton.mp h⟩
      | custom c =>
          rw [source, L.kvSource_custom] at opened
          cases opened

theorem database_apart_frontier {backend : BackendType} {places : List Path} {place path : Path}
    (opened : frontierPlaces config backend = some places) (h : place ∈ places)
    (database : path ∈ config.database.places) : Apart path.dropLast place := by
  obtain ⟨_, rfl⟩ | ⟨_, name, rfl⟩ := frontierPlaces_cases config opened h
  · exact config.apartSql path database
  · exact (config.apartFrontier path database name).below List.prefix_rfl
      (List.dropLast_prefix _)

/-- What the purge of the chain's database leaves of Frontier. -/
theorem purgeChain_frontier (first second : ω) {backend other : BackendType}
    {places : List Path} {place : Path}
    (opened : frontierPlaces config other = some places) (h : place ∈ places) (files : Files) :
    AgreeOn place (purgeChain config T first second backend files).2
      (purgeFrontier config T first backend files).2 :=
  andThen_agreeOn (run_agreeOn T second fun _ found =>
    database_apart_frontier config opened h (path_mem_places found)) files

theorem purgeFrontier_cleared {w : ω} {backend : BackendType} {files : Files}
    (plain : config.database.Plain) (confirmed : backend = .keyValue → T.confirms w = true)
    (ok : (purgeFrontier config T w backend files).1 = .ok ()) {places : List Path}
    (opened : frontierPlaces config backend = some places) :
    ∀ place ∈ places, Cleared place (purgeFrontier config T w backend files).2 := by
  intro place h
  cases backend with
  | sql =>
      cases opened
      rw [List.mem_singleton.mp h]
      simp only [purgeFrontier] at ok ⊢
      have removed := T.removeDirAll_cleared w (dbConfigDir config ++ ["sql"]) files
      split at ok
      · exact removed (Or.inl (by assumption))
      · exact removed (Or.inr (by assumption))
      · cases ok
  | keyValue =>
      rw [frontierPlaces] at opened
      rw [purgeFrontier] at ok ⊢
      cases source : config.database with
      | auto p r c | custom c =>
          rw [source] at plain
          exact plain.elim
      | rocksDb p c =>
          rw [source, L.kvSource_rocksDb] at opened
          cases opened
          rw [List.mem_singleton.mp h]
          rw [source] at ok
          exact T.run_cleared (confirmed rfl) rfl ok
      | parityDb p =>
          rw [source, L.kvSource_parityDb] at opened
          cases opened
          rw [List.mem_singleton.mp h]
          rw [source] at ok
          exact T.run_cleared (confirmed rfl) rfl ok

theorem purgeFrontier_database (w : ω) (backend : BackendType) {path : Path}
    (database : path ∈ config.database.places) (files : Files) :
    AgreeOn path.dropLast (purgeFrontier config T w backend files).2 files := by
  cases backend with
  | sql =>
      exact (purgeSql_confined config T w).on_of_apart (config.apartSql path database).symm files
  | keyValue =>
      obtain ⟨name, confined⟩ | ⟨_, refused⟩ := purgeKeyValue_cases config T w
      · exact confined.on_of_apart (config.apartFrontier path database name).symm files
      · rw [refused]
        exact fun _ _ => rfl

theorem purgeFrontier_other (w : ω) {backend other : BackendType} (differs : other ≠ backend)
    {places : List Path} {place : Path} (opened : frontierPlaces config other = some places)
    (h : place ∈ places) (files : Files) :
    AgreeOn place (purgeFrontier config T w backend files).2 files := by
  obtain ⟨rfl, rfl⟩ | ⟨rfl, name, rfl⟩ := frontierPlaces_cases config opened h
  · cases backend with
    | sql => exact absurd rfl differs
    | keyValue =>
        obtain ⟨name, confined⟩ | ⟨_, refused⟩ := purgeKeyValue_cases config T w
        · exact confined.on_of_apart (L.frontierDatabaseDir_apart _ name) files
        · rw [refused]
          exact fun _ _ => rfl
  · cases backend with
    | keyValue => exact absurd rfl differs
    | sql =>
        have apart := (L.frontierDatabaseDir_apart (dbConfigDir config) name).symm
        exact (purgeSql_confined config T w).on_of_apart
          (apart.below List.prefix_rfl (List.dropLast_prefix _)) files

/-- What the command does to the files, for all answers and faults. -/
structure PurgeLaws (first second : ω) (backend : BackendType) (files : Files) : Prop where
  /-- With everything confirmed, the next node opens nothing but empty databases. -/
  cleared : config.database.Plain → (backend = .keyValue → T.confirms first = true) →
    T.confirms second = true → (purgeChain config T first second backend files).1 = .ok () →
      ∀ places, openedPlaces config backend = some places →
        ∀ place ∈ places, Cleared place (purgeChain config T first second backend files).2
  /-- No other source is purged by halves. -/
  refused : backend = .keyValue → ¬ config.database.Plain →
    purgeChain config T first second backend files = (.error (.cannotPurge config.database), files)
  /-- The chain's database goes last. -/
  frontierFirst : ∀ e, (purgeFrontier config T first backend files).1 = .error e →
    (purgeChain config T first second backend files).1 = .error e ∧
      ∀ path ∈ config.database.places,
        AgreeOn path.dropLast (purgeChain config T first second backend files).2 files
  declined : T.confirms second = false → ∀ path ∈ config.database.places,
    AgreeOn path.dropLast (purgeChain config T first second backend files).2 files
  /-- A node that is started with the other backend later finds its old database. -/
  otherBackend : ∀ other, other ≠ backend → ∀ places, frontierPlaces config other = some places →
    ∀ place ∈ places, AgreeOn place (purgeChain config T first second backend files).2 files

theorem purgeChain_cleared {first second : ω} {backend : BackendType} {files : Files}
    (plain : config.database.Plain) (firstConfirmed : backend = .keyValue → T.confirms first = true)
    (secondConfirmed : T.confirms second = true)
    (ok : (purgeChain config T first second backend files).1 = .ok ()) {places : List Path}
    (opened : openedPlaces config backend = some places) :
    ∀ place ∈ places, Cleared place (purgeChain config T first second backend files).2 := by
  obtain ⟨frontierOk, rest⟩ := andThen_ok ok
  obtain ⟨frontier, found, rfl⟩ := Option.map_eq_some_iff.mp opened
  intro place h
  obtain database | listed := List.mem_append.mp h
  · have path : config.database.path = some place := by
      cases source : config.database with
      | auto p r c | custom c =>
          rw [source] at plain
          exact plain.elim
      | rocksDb p c | parityDb p =>
          rw [source] at database
          rw [List.mem_singleton.mp database]
          rfl
    rw [purgeChain, rest] at ok ⊢
    exact T.run_cleared secondConfirmed path ok
  · exact (purgeChain_frontier config T first second found listed files).cleared
      (purgeFrontier_cleared config T plain firstConfirmed frontierOk found place listed)

/-- A node that runs for a while: what it makes of the places it has opened. -/
def session (places : List Path) (work : Files → Files) (files : Files) : Files :=
  let opened : Path → Bool := fun path => places.any fun place => place.isPrefixOf path
  fun path => if opened path then work (fun p => if opened p then files p else none) path
    else files path

inductive Operation (L : Layout) (basePath : Path) (ω : Type)
  | session (config : Configuration L basePath) (backend : BackendType) (work : Files → Files)
  | purgeChain (config : Configuration L basePath) (backend : BackendType) (first second : ω)

def Operation.chainId : Operation L basePath ω → String
  | .session config _ _ | .purgeChain config _ _ _ => config.chainId

def step (files : Files) : Operation L basePath ω → Files
  | .session config backend work =>
      match openedPlaces config backend with
      | some places => session places work files
      | none => files
  | .purgeChain config backend first second => (purgeChain config T first second backend files).2

theorem openedPlaces_inside {backend : BackendType} {places : List Path}
    (opened : openedPlaces config backend = some places) :
    ∀ place ∈ places, dbConfigDir config <+: place := by
  obtain ⟨frontier, found, rfl⟩ := Option.map_eq_some_iff.mp opened
  intro place h
  obtain database | listed := List.mem_append.mp h
  · exact (config.inside place database).trans (List.dropLast_prefix place)
  · obtain ⟨_, rfl⟩ | ⟨_, name, rfl⟩ := frontierPlaces_cases config found listed
    · exact List.prefix_append _ _
    · exact (L.frontierDatabaseDir_inside _ name).trans (List.dropLast_prefix _)

theorem session_confined {dir : Path} {places : List Path}
    (inside : ∀ place ∈ places, dir <+: place) (work : Files → Files) :
    Confined dir fun files => ((), session places work files) := by
  have below {path : Path} (opened : (places.any fun place => place.isPrefixOf path) = true) :
      dir <+: path := by
    obtain ⟨place, listed, covers⟩ := List.any_eq_true.mp opened
    exact (inside place listed).trans (List.isPrefixOf_iff_prefix.mp covers)
  refine ⟨?_, ?_⟩
  · intro files path elsewhere
    exact if_neg fun opened => elsewhere (below opened)
  · intro files files' same
    have view : (fun p => if (places.any fun place => place.isPrefixOf p) = true then files p
        else none) =
      fun p => if (places.any fun place => place.isPrefixOf p) = true then files' p else none := by
      funext p
      split
      · rename_i opened
        exact same p (below opened)
      · rfl
    refine ⟨rfl, ?_⟩
    intro path within
    simp only [session, view]
    split
    · rfl
    · exact same path within

theorem step_confined (op : Operation L basePath ω) :
    Confined (L.configDir basePath op.chainId) fun files => ((), step T files op) := by
  cases op with
  | session config backend work =>
      simp only [step]
      cases opened : openedPlaces config backend with
      | some places => exact session_confined (openedPlaces_inside config opened) work
      | none => exact FileTree.confined_pure _ _
  | purgeChain config backend first second =>
      exact (purgeChain_confined config T first second backend).bind (fun _ files => ((), files))
        fun _ => FileTree.confined_pure _ _

section Sample

def joinedLayout : Layout where
  configDir basePath id := basePath ++ ["chains", id]
  frontierDatabaseDir dir name := dir ++ ["frontier", name]
  kvSource source dir :=
    match source with
    | .rocksDb _ _ => some (.rocksDb (dir ++ ["frontier", "db"]) 0)
    | .parityDb _ => some (.parityDb (dir ++ ["frontier", "paritydb"]))
    | .auto _ _ _ => some (.auto (dir ++ ["frontier", "paritydb"]) (dir ++ ["frontier", "db"]) 0)
    | .custom _ => none
  configDir_apart basePath id id' differs := by
    rw [List.append_cons basePath "chains" [id], List.append_cons basePath "chains" [id']]
    exact FileTree.apart_append _ differs [] []
  frontierDatabaseDir_inside dir name := by
    rw [List.dropLast_append_of_ne_nil (List.cons_ne_nil _ _)]
    exact List.prefix_append _ _
  frontierDatabaseDir_apart dir name := by
    rw [List.dropLast_append_of_ne_nil (List.cons_ne_nil _ _)]
    exact FileTree.apart_append dir (by decide) [] []
  kvSource_rocksDb _ _ _ := rfl
  kvSource_parityDb _ _ := rfl
  kvSource_auto _ _ _ _ := rfl
  kvSource_custom _ _ := rfl

def rocksDbConfiguration (chainId : String) : Configuration joinedLayout ["base"] where
  chainId := chainId
  database := .rocksDb ["base", "chains", chainId, "db", "full"] 128
  inside path h := by
    rw [List.mem_singleton.mp h]
    exact List.prefix_append ["base", "chains", chainId] ["db"]
  apartSql path h := by
    rw [List.mem_singleton.mp h]
    exact FileTree.apart_append ["base", "chains", chainId] (show "db" ≠ "sql" by decide) [] []
  apartFrontier path h name := by
    rw [List.mem_singleton.mp h]
    exact FileTree.apart_append ["base", "chains", chainId] (show "db" ≠ "frontier" by decide)
      [] []

def removed (dir : Path) (files : Files) : Files :=
  fun path => if dir.isPrefixOf path then none else files path

theorem removed_cleared (dir : Path) (files : Files) : Cleared dir (removed dir files) :=
  fun _ inside => if_pos (List.isPrefixOf_iff_prefix.mpr inside)

theorem removed_confined {β : Type} (dir : Path) (b : β) :
    Confined dir fun files => (b, removed dir files) := by
  refine ⟨?_, ?_⟩
  · intro files path elsewhere
    exact if_neg fun inside => elsewhere (List.isPrefixOf_iff_prefix.mp inside)
  · intro files files' _
    refine ⟨rfl, ?_⟩
    intro path inside
    exact (removed_cleared dir files path inside).trans
      (removed_cleared dir files' path inside).symm

/-- A disk without faults, and a user who says yes or no. -/
def promptTools : Tools Bool where
  confirms yes := yes
  run yes source files :=
    match source.path with
    | some path => (.ok (), if yes then removed path.dropLast files else files)
    | none => (.error (.cli "Cannot purge custom database implementation"), files)
  removeDirAll _ path files := (.ok (), removed path files)
  run_confined yes source path h := by
    simp only [h]
    cases yes with
    | true => exact removed_confined _ _
    | false => exact FileTree.confined_pure _ _
  run_custom yes source h := by
    refine ⟨.cli "Cannot purge custom database implementation", fun files => ?_⟩
    simp only [h]
  run_declined declined source files := by
    rw [declined]
    cases source.path with
    | some path => rfl
    | none => rfl
  run_cleared confirmed source path files h _ := by
    simp only [h, confirmed]
    exact (removed_cleared path.dropLast files).mono (List.dropLast_prefix path)
  removeDirAll_confined _ path := removed_confined path _
  removeDirAll_cleared _ path files _ := removed_cleared path files

end Sample
end PurgeChain
end Solochain
