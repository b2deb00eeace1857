import KeyspaceLink.Catalog.Info
import KeyspaceLink.Catalog.Objects
import KeyspaceLink.Proofs.ConnectionRuns

/-! What a connection that may only be read sends: read-only queries and requests that get
something. The catalog and the samples behind it are read by read-only queries alone,
whatever the connection allows. -/

namespace KeyspaceLink

open Plan

/-- A call that leaves the cluster as it is. -/
def ClusterCall.IsRead : ClusterCall → Prop
  | query _ options => options.readOnly = true
  | manage request => request.method = .get

def ClusterCall.IsReadQuery : ClusterCall → Prop
  | query _ options => options.readOnly = true
  | manage _ => False

/-- Creates or drops a bucket. -/
def IsWriteCommand (statement : List Char) : Prop :=
  (Grammar.createBucket? statement).isSome ∨ (Grammar.dropBucket? statement).isSome

theorem ClusterCall.IsReadQuery.isRead {c : ClusterCall} (h : c.IsReadQuery) : c.IsRead := by
  cases c with
  | query sql options => exact h
  | manage request => exact h.elim

section Calls

variable {P : ClusterCall → Prop}

theorem asks_query {sql : String} {options : QueryOptions} (h : P (.query sql options)) :
    (ClusterPlan.query sql options).Asks P :=
  .call h fun r => .ofExcept r

theorem asks_manage {request : ManagerRequest} (h : P (.manage request)) :
    (ClusterPlan.manage request).Asks P :=
  .call h fun r => .ofExcept r

theorem Session.asks_requireOpen (s : Session) : s.requireOpen.Asks P := by
  unfold requireOpen
  split <;> constructor

namespace Session

variable (s : Session)

theorem asks_query {sql : String} {readOnly : Bool}
    (h : P (.query sql (s.queryOptions readOnly))) : (s.query sql readOnly).Asks P :=
  s.asks_requireOpen.bind fun _ => KeyspaceLink.asks_query h

end Session

end Calls

namespace Session

variable (s : Session)

theorem asks_executeNative (sql : String) (readOnly : Bool) :
    (s.executeNative sql readOnly).Asks
      (· = .query (.ofList (normalize sql.toList)) (s.queryOptions readOnly)) := by
  refine (s.asks_query ?_).bind fun reply => ?_
  · rfl
  · split
    · constructor
    · split <;> constructor

theorem asks_executeNative_read (sql : String) :
    (s.executeNative sql true).Asks ClusterCall.IsReadQuery := by
  refine (s.asks_executeNative sql true).mono ?_
  rintro c rfl
  rfl

theorem asks_executeCatalog (sql : String) (columns : List Column) :
    (s.executeCatalog sql columns).Asks ClusterCall.IsReadQuery := by
  refine (s.asks_query ?_).bind fun reply => ?_
  · rfl
  · constructor

theorem asks_sampleSome (table : Keyspace) (size : Nat) :
    (s.sampleSome table size).Asks ClusterCall.IsReadQuery := by
  refine (s.asks_executeNative_read _).attempt.bind fun outcome => ?_
  cases outcome with
  | error e =>
    dsimp only
    split <;> constructor
  | ok outcome => exact .done _

theorem asks_sample (table : Keyspace) : (s.sample table).Asks ClusterCall.IsReadQuery :=
  s.asks_sampleSome table s.parameters.samplingSize

theorem asks_listSchemas (schema : Option String) :
    (s.listSchemas schema).Asks ClusterCall.IsReadQuery :=
  (s.asks_executeCatalog _ _).bind fun _ => .done _

theorem asks_listTables (schema table : Option String) :
    (s.listTables schema table).Asks ClusterCall.IsReadQuery :=
  (s.asks_executeCatalog _ _).bind fun _ => .done _

theorem asks_listTableColumns (t : TableEntry) (column : Option String) :
    (s.listTableColumns t column).Asks ClusterCall.IsReadQuery :=
  (s.asks_sample t.keyspace).bind fun _ => .done _

theorem asks_listColumnsOf (column : Option String) (tables : List TableEntry) :
    (s.listColumnsOf column tables).Asks ClusterCall.IsReadQuery := by
  induction tables with
  | nil => exact .done _
  | cons t rest ih =>
    exact (s.asks_listTableColumns t column).bind fun _ => ih.bind fun _ => .done _

theorem asks_listColumns (schema table column : Option String) :
    (s.listColumns schema table column).Asks ClusterCall.IsReadQuery :=
  (s.asks_listTables schema table).bind fun tables => s.asks_listColumnsOf column tables

theorem asks_listKeys (schema table : Option String) :
    (s.listKeys schema table).Asks ClusterCall.IsReadQuery :=
  (s.asks_executeCatalog _ _).bind fun _ => .done _

theorem asks_listIndexes (schema table : Option String) (unique : Bool) :
    (s.listIndexes schema table unique).Asks ClusterCall.IsReadQuery :=
  (s.asks_executeCatalog _ _).bind fun _ => .done _

theorem asks_productVersion : s.productVersion.Asks ClusterCall.IsReadQuery := by
  refine (s.asks_executeNative_read _).bind fun outcome => ?_
  split <;> constructor

theorem asks_addColumnsOf (column : Option String) (tree : ObjectTree) (tables : List TableEntry) :
    (s.addColumnsOf column tree tables).Asks ClusterCall.IsReadQuery := by
  induction tables generalizing tree with
  | nil => exact .done _
  | cons t rest ih => exact (s.asks_listTableColumns t column).bind fun columns => ih _

theorem asks_collectObjects (depth : ObjectDepth) (f : ObjectFilter) :
    (s.collectObjects depth f).Asks ClusterCall.IsReadQuery := by
  unfold collectObjects
  split
  · constructor
  · split
    · constructor
    · refine (s.asks_listSchemas f.schema).bind fun schemas => ?_
      split
      · constructor
      · refine (s.asks_listTables f.schema f.table).bind fun listed => ?_
        dsimp only
        generalize (if f.takesTables = true then listed else []) = tables
        split
        · constructor
        · refine (s.asks_addColumnsOf f.column _ tables).bind fun tree => ?_
          exact (s.asks_listKeys f.schema f.table).bind fun keys => .done _

theorem asks_getObjects (depth : ObjectDepth) (f : ObjectFilter) :
    (s.getObjects depth f).Asks ClusterCall.IsReadQuery :=
  (s.asks_collectObjects depth f).bind fun tree => .ofExcept tree.build

theorem asks_getTableSchema (schema : Option String) (table : String) :
    (s.getTableSchema schema table).Asks ClusterCall.IsReadQuery :=
  (s.asks_listTableColumns _ none).bind fun _ => .done _

theorem asks_infoEntries (codes : List InfoCode) :
    (s.infoEntries codes).Asks ClusterCall.IsReadQuery := by
  induction codes with
  | nil => exact .done _
  | cons code rest ih =>
    refine AsksOr.bind ?_ fun text => ih.bind fun more => .done _
    cases code with
    | vendorVersion => exact s.asks_productVersion.attempt.bind fun _ => .done _
    | vendorName => exact .done _
    | driverName => exact .done _
    | driverVersion => exact .done _

theorem asks_getInfo (wanted : Option (List Nat)) :
    (s.getInfo wanted).Asks ClusterCall.IsReadQuery := by
  refine (s.asks_infoEntries _).bind fun entries => ?_
  split <;> constructor

end Session

theorem DescribeBucket.asks_execute (s : Session) (c : DescribeBucket) :
    (c.execute s).Asks ClusterCall.IsRead := by
  unfold execute
  split
  · refine (asks_manage ?_).bind fun reply => ?_
    · rfl
    · split
      · constructor
      · refine (AsksOr.ofExcept _).bind fun reply => (AsksOr.ofExcept _).bind fun v => ?_
        exact (AsksOr.ofExcept _).bind fun settings => .done _
  · exact ((s.asks_sample _).mono fun _ => ClusterCall.IsReadQuery.isRead).bind fun _ => .done _

theorem asks_describeIndexes : describeIndexes.Asks ClusterCall.IsRead := by
  refine AsksOr.bind (AsksOr.bind (asks_manage ?_) fun reply => ?_) fun status => .done _
  · rfl
  · refine (AsksOr.ofExcept _).bind fun reply => ?_
    split <;> constructor

theorem GetKeys.asks_execute (c : GetKeys) : c.execute.Asks ClusterCall.IsRead := by
  unfold execute
  split
  · constructor
  · refine (asks_manage ?_).bind fun reply => ?_
    · rfl
    · split
      · constructor
      · split
        · constructor
        · refine (AsksOr.ofExcept _).bind fun body => ?_
          split <;> constructor

theorem Command.asks_execute (s : Session) {c : Command} (h : c.kind.writes = false) :
    (c.execute s).Asks ClusterCall.IsRead := by
  cases c with
  | createBucket c => cases h
  | dropBucket c => cases h
  | describeBucket c => exact c.asks_execute s
  | describeIndexes => exact asks_describeIndexes
  | getKeys c => exact c.asks_execute

theorem Grammar.kind_of_read {kind : CommandKind} {sql : String} {c : Command}
    (h : read kind sql = .ok (some c)) : c.kind = kind := by
  cases kind with
  | createBucket =>
    obtain ⟨a, -, rfl⟩ := Option.map_eq_some_iff.mp (Except.ok.inj h)
    rfl
  | dropBucket =>
    obtain ⟨a, -, rfl⟩ := Option.map_eq_some_iff.mp (Except.ok.inj h)
    rfl
  | describeBucket =>
    obtain ⟨a, -, rfl⟩ := Option.map_eq_some_iff.mp (Except.ok.inj h)
    rfl
  | describeIndexes =>
    simp only [read] at h
    split at h <;> cases h
    rfl
  | getKeys =>
    simp only [read] at h
    cases hk : getKeys sql.toList with
    | error e => simp [hk, Except.map] at h
    | ok found =>
      rw [hk] at h
      obtain ⟨a, -, rfl⟩ := Option.map_eq_some_iff.mp (Except.ok.inj h)
      rfl

namespace Session

variable (s : Session)

theorem asks_interpret {kind : CommandKind} (h : kind.writes = false) (sql : String) :
    (s.interpret kind sql).Asks ClusterCall.IsRead := by
  refine s.asks_requireOpen.bind fun _ => ?_
  cases hr : Grammar.read kind sql with
  | error e => exact .fail e
  | ok found =>
    cases found with
    | none => exact .done _
    | some c => exact Command.asks_execute s (by rw [Grammar.kind_of_read hr, h])

theorem asks_tryKinds (sql : String) (kinds : List CommandKind) :
    (s.tryKinds sql true kinds).Asks ClusterCall.IsRead := by
  induction kinds with
  | nil => exact .done _
  | cons kind rest ih =>
    refine (AsksOr.ofExcept _).bind fun claimed => ?_
    split
    · exact ih
    · split
      · constructor
      · next hw => exact s.asks_interpret (by simpa using hw) sql

theorem asks_tryExecute (sql : String) : (s.tryExecute sql true).Asks ClusterCall.IsRead :=
  s.asks_tryKinds sql CommandKind.all

/-- Executing for reading only reads, whatever the text and the answers. -/
theorem asks_execute (sql : String) : (s.execute sql true).Asks ClusterCall.IsRead := by
  simp only [execute, bind_eq]
  refine (s.asks_tryExecute _).bind fun outcome => ?_
  split
  · exact (s.asks_executeNative_read _).mono fun _ => ClusterCall.IsReadQuery.isRead
  · exact .done _

variable {sql : String} {readOnly : Bool} {kind : CommandKind}

theorem tryKinds_cons_of_none (rest : List CommandKind) (h : Grammar.read kind sql = .ok none) :
    s.tryKinds sql readOnly (kind :: rest) = s.tryKinds sql readOnly rest := by
  rw [tryKinds, h]
  rfl

theorem tryKinds_cons_of_some {c : Command} (rest : List CommandKind)
    (h : Grammar.read kind sql = .ok (some c)) :
    s.tryKinds sql readOnly (kind :: rest) =
      if readOnly && kind.writes then .fail .readOnly else s.interpret kind sql := by
  rw [tryKinds, h]
  rfl

theorem tryKinds_of_none {kinds : List CommandKind}
    (h : ∀ kind ∈ kinds, Grammar.read kind sql = .ok none) :
    s.tryKinds sql readOnly kinds = .done .unclaimed := by
  induction kinds with
  | nil => rfl
  | cons kind rest ih =>
    rw [s.tryKinds_cons_of_none rest (h kind List.mem_cons_self)]
    exact ih fun k hk => h k (List.mem_cons_of_mem kind hk)

/-- A text that no command has goes to the query service. -/
theorem execute_of_unread
    (h : ∀ kind ∈ CommandKind.all, Grammar.read kind (.ofList (normalize sql.toList)) = .ok none) :
    s.execute sql readOnly = s.executeNative (.ofList (normalize sql.toList)) readOnly := by
  simp only [execute, tryExecute, s.tryKinds_of_none h]
  rfl

theorem tryExecute_of_isWriteCommand (h : IsWriteCommand sql.toList) :
    s.tryExecute sql true = .fail .readOnly := by
  unfold tryExecute CommandKind.all
  cases hc : Grammar.createBucket? sql.toList with
  | some c => exact s.tryKinds_cons_of_some _ (by rw [Grammar.read, hc]; rfl)
  | none =>
    have hd : (Grammar.dropBucket? sql.toList).isSome := by simpa [IsWriteCommand, hc] using h
    obtain ⟨c, hd⟩ := Option.isSome_iff_exists.mp hd
    rw [s.tryKinds_cons_of_none _ (by rw [Grammar.read, hc]; rfl)]
    exact s.tryKinds_cons_of_some _ (by rw [Grammar.read, hd]; rfl)

theorem execute_of_isWriteCommand (h : IsWriteCommand (normalize sql.toList)) :
    s.execute sql true = .fail .readOnly := by
  simp only [execute]
  rw [s.tryExecute_of_isWriteCommand (by simpa using h)]
  rfl

end Session

namespace Statement

variable {s : Statement} {c : Connection} {r : Results}

theorem asks_run (h : c.readOnly = true) : (s.run c r).Asks ClusterCall.IsRead := by
  unfold run
  split
  · constructor
  · rw [h]
    exact (c.session.asks_execute _).attempt.bind fun _ => .done _

theorem asks_execute (h : c.readOnly = true) : (s.execute c r).Asks ClusterCall.IsRead := by
  refine (asks_run h).bind fun ended => ?_
  split <;> constructor

theorem asks_executeUpdate (h : c.readOnly = true) :
    (s.executeUpdate c r).Asks ClusterCall.IsRead :=
  (asks_run h).bind fun _ => .done _

theorem asks_executeSchema (h : c.readOnly = true) :
    (s.executeSchema c r).Asks ClusterCall.IsRead :=
  (asks_execute h).bind fun _ => .done _

theorem run_of_isWriteCommand {sql : String} (h : c.readOnly = true) (hq : s.query = some sql)
    (hw : IsWriteCommand (normalize sql.toList)) :
    s.run c r = .done (.error .readOnly, s.release r) := by
  simp only [run, hq, h, c.session.execute_of_isWriteCommand hw]
  rfl

theorem execute_of_isWriteCommand {sql : String} (h : c.readOnly = true)
    (hq : s.query = some sql) (hw : IsWriteCommand (normalize sql.toList)) :
    s.execute c r = .done (.error .readOnly, s.release r) := by
  rw [execute, run_of_isWriteCommand h hq hw]
  rfl

theorem executeUpdate_of_isWriteCommand {sql : String} (h : c.readOnly = true)
    (hq : s.query = some sql) (hw : IsWriteCommand (normalize sql.toList)) :
    s.executeUpdate c r = .done (.error .readOnly, s.release r) := by
  rw [executeUpdate, run_of_isWriteCommand h hq hw]
  rfl

theorem executeSchema_of_isWriteCommand {sql : String} (h : c.readOnly = true)
    (hq : s.query = some sql) (hw : IsWriteCommand (normalize sql.toList)) :
    s.executeSchema c r = .done (.error .readOnly, s.release r) := by
  rw [executeSchema, execute_of_isWriteCommand h hq hw]
  rfl

end Statement

/-- After any acts that leave a connection read-only, each way of executing a statement only
reads, and refuses a write command unsent. The catalog is read by read-only queries alone. -/
theorem read_only_connection_only_reads :
    (∀ (session : Session) (acts : List Act) (d : ConnectionState),
      ConnectionState.Reaches { connection := { session } } acts d → readOnlyAfter acts = true →
      ∀ s ∈ d.statements,
        (s.execute d.connection d.results).Asks ClusterCall.IsRead ∧
        (s.executeUpdate d.connection d.results).Asks ClusterCall.IsRead ∧
        (s.executeSchema d.connection d.results).Asks ClusterCall.IsRead ∧
        ∀ sql, s.query = some sql → IsWriteCommand (normalize sql.toList) →
          ∃ e : Failure, e.kind = .readOnlyViolation ∧
            s.execute d.connection d.results = .done (.error e, s.release d.results) ∧
            s.executeUpdate d.connection d.results = .done (.error e, s.release d.results) ∧
            s.executeSchema d.connection d.results = .done (.error e, s.release d.results)) ∧
    ∀ session : Session,
      (∀ table, (session.sample table).Asks ClusterCall.IsReadQuery) ∧
      (∀ table size, (session.sampleSome table size).Asks ClusterCall.IsReadQuery) ∧
      (∀ schema, (session.listSchemas schema).Asks ClusterCall.IsReadQuery) ∧
      (∀ schema table, (session.listTables schema table).Asks ClusterCall.IsReadQuery) ∧
      (∀ t column, (session.listTableColumns t column).Asks ClusterCall.IsReadQuery) ∧
      (∀ schema table column,
        (session.listColumns schema table column).Asks ClusterCall.IsReadQuery) ∧
      (∀ schema table, (session.listKeys schema table).Asks ClusterCall.IsReadQuery) ∧
      (∀ schema table unique,
        (session.listIndexes schema table unique).Asks ClusterCall.IsReadQuery) ∧
      (∀ schema, (session.getSchemas schema).Asks ClusterCall.IsReadQuery) ∧
      (∀ schema table, (session.getTables schema table).Asks ClusterCall.IsReadQuery) ∧
      (∀ schema table column,
        (session.getColumns schema table column).Asks ClusterCall.IsReadQuery) ∧
      (∀ schema table, (session.getPrimaryKeys schema table).Asks ClusterCall.IsReadQuery) ∧
      (∀ schema table unique,
        (session.getIndexes schema table unique).Asks ClusterCall.IsReadQuery) ∧
      session.productVersion.Asks ClusterCall.IsReadQuery ∧
      (∀ depth filter, (session.getObjects depth filter).Asks ClusterCall.IsReadQuery) ∧
      (∀ schema table, (session.getTableSchema schema table).Asks ClusterCall.IsReadQuery) ∧
      ∀ wanted, (session.getInfo wanted).Asks ClusterCall.IsReadQuery := by
  constructor
  · intro session acts d hreach hflag s _
    have h : d.connection.readOnly = true := hreach.readOnly.trans hflag
    refine ⟨Statement.asks_execute h, Statement.asks_executeUpdate h,
      Statement.asks_executeSchema h, fun sql hq hw => ⟨.readOnly, rfl, ?_, ?_, ?_⟩⟩
    · exact Statement.execute_of_isWriteCommand h hq hw
    · exact Statement.executeUpdate_of_isWriteCommand h hq hw
    · exact Statement.executeSchema_of_isWriteCommand h hq hw
  · intro s
    exact ⟨s.asks_sample, s.asks_sampleSome, s.asks_listSchemas, s.asks_listTables,
      s.asks_listTableColumns, s.asks_listColumns, s.asks_listKeys, s.asks_listIndexes,
      fun schema => (s.asks_listSchemas schema).bind fun _ => .done _,
      fun schema table => (s.asks_listTables schema table).bind fun _ => .done _,
      fun schema table column => (s.asks_listColumns schema table column).bind fun _ => .done _,
      fun schema table => (s.asks_listKeys schema table).bind fun _ => .done _,
      fun schema table unique => (s.asks_listIndexes schema table unique).bind fun _ => .done _,
      s.asks_productVersion, s.asks_getObjects, s.asks_getTableSchema, s.asks_getInfo⟩

theorem read_only_connection_refuses_drop :
    let session : Session := { parameters := .resolve "adbc:couchbase:h" ['h'] [] none none [] }
    let acts : List Act :=
      [.setOption "adbc.connection.readonly" (.text "true"), .newStatement,
       .setOption "adbc.connection.readonly" (.int 0), .setQuery 0 " drop Table default:b; ",
       .setOption "adbc.connection.readonly" (.text "YES"), .close]
    let s : Statement := { query := some " drop Table default:b; " }
    let d : ConnectionState :=
      { connection := { session := { session with closed := true }, readOnly := true }
        statements := [s] }
    ConnectionState.Reaches { connection := { session } } acts d ∧ readOnlyAfter acts = true ∧
      IsWriteCommand (normalize " drop Table default:b; ".toList) ∧
      ∃ e : Failure, e.kind = .readOnlyViolation ∧
        s.execute d.connection d.results = .done (.error e, s.release d.results) := by
  intro session acts s d
  have hreach : ConnectionState.Reaches { connection := { session } } acts d :=
    .act (.done _) (.act (.done _) (.act (.done _) (.act (.done _) (.act (.done _)
      (.act (.done _) (.refl _))))))
  have hflag : readOnlyAfter acts = true := rfl
  have hw : IsWriteCommand (normalize " drop Table default:b; ".toList) := .inr rfl
  have hs := read_only_connection_only_reads.1 session acts d hreach hflag s (by simp [d])
  obtain ⟨e, he, hx, -, -⟩ := hs.2.2.2 _ rfl hw
  exact ⟨hreach, hflag, hw, e, he, hx⟩

end KeyspaceLink
