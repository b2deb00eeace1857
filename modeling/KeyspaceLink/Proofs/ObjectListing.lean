import KeyspaceLink.Catalog.Objects
import KeyspaceLink.Proofs.MergedColumns

/-! The listing behind a tree of objects: the rows of the catalog, and a sample for each row of
a table. Every column of a table is numbered, and a table that is listed once has no name
of a column twice. -/

namespace KeyspaceLink

open Plan

structure ObjectListing where
  schemas : List String
  /-- A table for each row that lists it, with the columns sampled for that row. -/
  tables : List (TableEntry × List SampledColumn)
  keys : List KeyEntry

def TableEntry.columns (t : TableEntry) (pattern : Option String) (sampled : List SampledColumn) :
    List ColumnEntry :=
  (sampled.filter fun c => likeMatches pattern c.name).map fun c =>
    ⟨t.schema, t.name, c.name, c.tag.name, c.tag.code⟩

theorem flatMap_if {α β : Type} (p : α → Prop) [DecidablePred p] (f : α → List β) (l : List α) :
    (l.flatMap fun a => if p a then f a else []) = (l.filter p).flatMap f := by
  induction l with
  | nil => rfl
  | cons a l ih => by_cases h : p a <;> simp [h, ih]

namespace ObjectListing

/-- Schemas, tables, then for each row of a table its columns, and the keys. -/
def additions (l : ObjectListing) (pattern : Option String) : Additions :=
  (.catalog :: (l.schemas.map .schema ++ l.tables.map fun p => .table p.1)) ++
    (l.tables.map (fun p => .columns (p.1.columns pattern p.2)) ++ [.keys l.keys])

/-- The names of columns that the rows of a table have, row after row. -/
def columnNames (l : ObjectListing) (pattern : Option String) (e : TableEntry) : List String :=
  (l.tables.filter fun p => p.1 = e).flatMap fun p =>
    (p.2.map SampledColumn.name).filter (likeMatches pattern)

variable (l : ObjectListing) (pattern : Option String)

theorem schemas_additions :
    (l.additions pattern).schemas = (l.schemas ++ l.tables.map fun p => p.1.schema).eraseDups := by
  rw [Additions.schemas, additions]
  congr 1
  simp [List.filterMap_cons, List.filterMap_append, List.filterMap_map, Function.comp_def,
    Addition.schemaName?]

theorem tables_additions (schema : String) :
    (l.additions pattern).tables schema =
      ((l.tables.map Prod.fst).filterMap fun e =>
        if e.schema = schema then some e.name else none).eraseDups := by
  rw [Additions.tables, additions]
  congr 1
  simp [List.filterMap_cons, List.filterMap_append, List.filterMap_map, Function.comp_def,
    Addition.tableName?]

theorem mem_tables_additions {e : TableEntry} :
    e.name ∈ (l.additions pattern).tables e.schema ↔ e ∈ l.tables.map Prod.fst := by
  rw [Additions.mem_tables_iff, additions]
  simp

theorem flatMap_since_additions {β : Type} {e : TableEntry} (he : e ∈ l.tables.map Prod.fst)
    {f : Addition → List β} (hf : ∀ a, a.showsCatalog = true → f a = []) :
    ((l.additions pattern).since e.schema e.name).flatMap f =
      (l.tables.flatMap fun p => f (.columns (p.1.columns pattern p.2))) ++ f (.keys l.keys) := by
  let listed : Additions := .catalog :: (l.schemas.map .schema ++ l.tables.map fun p => .table p.1)
  have hmem : e.name ∈ listed.tables e.schema := by
    rw [Additions.mem_tables_iff]
    simpa [listed] using he
  -- nothing that lists schemas and tables adds to a table
  have hnone : (listed.since e.schema e.name).flatMap f = [] := by
    refine List.flatMap_eq_nil_iff.mpr fun a ha => hf a ?_
    have hlisted := (List.dropWhile_sublist _).subset ha
    simp only [listed, List.mem_cons, List.mem_append, List.mem_map] at hlisted
    rcases hlisted with rfl | ⟨_, -, rfl⟩ | ⟨_, -, rfl⟩ <;> rfl
  rw [additions, Additions.since_append_of_mem hmem, List.flatMap_append, hnone, List.nil_append,
    List.flatMap_append, List.flatMap_map, List.flatMap_singleton]

theorem columnsOf_columns (e e' : TableEntry) (sampled : List SampledColumn) :
    Addition.columnsOf e'.schema e'.name (.columns (e.columns pattern sampled)) =
      if e = e' then e.columns pattern sampled else [] := by
  have heq : (e.schema = e'.schema ∧ e.name = e'.name) ↔ e = e' := by
    cases e
    cases e'
    simp
  rw [Addition.columnsOf, TableEntry.columns, List.filter_map]
  by_cases h : e = e' <;> simp [Function.comp_def, heq, h]

theorem columns_additions {e : TableEntry} (he : e ∈ l.tables.map Prod.fst) :
    (l.additions pattern).columns e.schema e.name =
      (l.tables.filter fun p => p.1 = e).flatMap fun p => p.1.columns pattern p.2 := by
  rw [Additions.columns, flatMap_since_additions l pattern he]
  · simp only [columnsOf_columns, flatMap_if]
    exact List.append_nil _
  · intro a ha
    cases a <;> first | rfl | cases ha

theorem keys_additions {e : TableEntry} (he : e ∈ l.tables.map Prod.fst) :
    (l.additions pattern).keys e.schema e.name =
      l.keys.filter fun k => k.schema = e.schema ∧ k.table = e.name := by
  rw [Additions.keys, flatMap_since_additions l pattern he]
  · simp [Addition.keysOf]
  · intro a ha
    cases a <;> first | rfl | cases ha

theorem names_columns_additions {e : TableEntry} (he : e ∈ l.tables.map Prod.fst) :
    ((l.additions pattern).columns e.schema e.name).map ColumnEntry.name =
      l.columnNames pattern e := by
  rw [columns_additions l pattern he, columnNames, List.map_flatMap]
  congr 1
  funext p
  rw [TableEntry.columns, List.map_map, List.filter_map]
  rfl

theorem hasCatalog_tree : (l.additions pattern).tree.hasCatalog = true := by
  simp [Additions.tree, namedTree, additions, Addition.showsCatalog]

end ObjectListing

namespace Session

def sampleTables (s : Session) : List TableEntry → ClusterPlan (List (TableEntry × List SampledColumn))
  | [] => .done []
  | t :: rest => do
    let sampled ← s.sample t.keyspace
    let more ← s.sampleTables rest
    return (t, sampled) :: more

def readListing (s : Session) (f : ObjectFilter) : ClusterPlan ObjectListing := do
  let schemas ← s.listSchemas f.schema
  let listed ← s.listTables f.schema f.table
  let tables ← s.sampleTables (if f.takesTables then listed else [])
  let keys ← s.listKeys f.schema f.table
  return ⟨schemas, tables, keys⟩

variable (s : Session)

theorem yields_sampleTables (tables : List TableEntry) :
    (s.sampleTables tables).Yields fun sampled =>
      sampled.map Prod.fst = tables ∧ ∀ p ∈ sampled, DistinctColumns p.2 := by
  induction tables with
  | nil => exact .done ⟨rfl, by simp⟩
  | cons t rest ih =>
    refine (s.yields_sample t.keyspace).bind fun sampled hsampled => ?_
    refine ih.bind fun more hmore => .done ⟨?_, ?_⟩
    · rw [List.map_cons, hmore.1]
    · exact List.forall_mem_cons.mpr ⟨hsampled, hmore.2⟩

theorem yields_readListing (f : ObjectFilter) :
    (s.readListing f).Yields fun l => ∀ p ∈ l.tables, DistinctColumns p.2 := by
  refine .last _ fun schemas => .last _ fun listed => ?_
  refine (s.yields_sampleTables _).bind fun sampled hsampled => ?_
  exact .last _ fun keys => .done hsampled.2

theorem addColumnsOf_eq (pattern : Option String) (tree : ObjectTree) (tables : List TableEntry) :
    s.addColumnsOf pattern tree tables = (s.sampleTables tables).bind fun sampled =>
      .done (sampled.foldl (fun tree p => tree.addColumns (p.1.columns pattern p.2)) tree) := by
  induction tables generalizing tree with
  | nil => rfl
  | cons t rest ih =>
    simp only [addColumnsOf, sampleTables, listTableColumns, bind_eq, bind_assoc, ih]
    rfl

variable {s} {depth : ObjectDepth} {f : ObjectFilter}

theorem collectObjects_of_no_catalog (hcatalog : f.takesCatalog = false) :
    s.collectObjects depth f = .done {} := by
  rw [collectObjects, hcatalog]
  rfl

theorem collectObjects_eq (hdepth : depth = .all ∨ depth = .columns)
    (hcatalog : f.takesCatalog = true) :
    s.collectObjects depth f =
      (s.readListing f).bind fun l => .done (l.additions f.column).tree := by
  have htree : ∀ l : ObjectListing, (l.additions f.column).tree =
      (l.tables.foldl (fun tree p => tree.addColumns (p.1.columns f.column p.2))
        ((l.tables.map Prod.fst).foldl ObjectTree.addTable
          (l.schemas.foldl ObjectTree.addSchema ({} : ObjectTree).addCatalog))).addKeys l.keys := by
    intro l
    rw [← Additions.foldl_perform]
    simp only [ObjectListing.additions, List.foldl_cons, List.foldl_append, List.foldl_map,
      List.foldl_nil]
    rfl
  have hdeep : depth ≠ .catalogs ∧ depth ≠ .schemas ∧ depth ≠ .tables := by
    rcases hdepth with rfl | rfl <;> simp
  simp only [collectObjects, hcatalog, readListing, bind_eq, bind_assoc, Bool.not_true,
    Bool.false_eq_true, if_false, hdeep, htree, addColumnsOf_eq]
  congr 1
  funext schemas
  congr 1
  funext listed
  -- only the tables that were sampled are known to be those that were listed
  refine (s.yields_sampleTables _).bind_congr fun sampled hsampled => ?_
  rw [← hsampled.1]
  rfl

/-- Objects are a listing and what is built of it. -/
theorem conversation_getObjects_iff {talk : List ClusterEvent} {outcome : Except Failure Batch}
    (hdepth : depth = .all ∨ depth = .columns) (hcatalog : f.takesCatalog = true) :
    Conversation (s.getObjects depth f) talk outcome ↔
      ∃ x, Conversation (s.readListing f) talk x ∧
        outcome = x.bind fun l => (l.additions f.column).tree.build := by
  have hplan : s.getObjects depth f =
      (s.readListing f).bind fun l => Plan.ofExcept (l.additions f.column).tree.build := by
    rw [getObjects, bind_eq, collectObjects_eq hdepth hcatalog, bind_assoc]
    rfl
  rw [hplan, conversation_bind_ofExcept_iff]

/-- A run that collects a tree delivers its rows. -/
theorem exists_run_getObjects {σ : Type} {answer : (c : ClusterCall) → Nat → σ → c.Reply × σ}
    {now : Nat} {state : σ} {tree : ObjectTree}
    (h : ((s.collectObjects depth f).run answer now state).1.toOption = some tree)
    (hcount : tree.Countable) :
    ∃ b, ((s.getObjects depth f).run answer now state).1 = .ok b ∧
      Conversation (s.getObjects depth f) ((s.getObjects depth f).events answer now state) (.ok b) ∧
      b.rows = tree.rows := by
  obtain ⟨b, hbuild, -, hrows⟩ := ObjectTree.rows_of_build hcount
  have hrun : ((s.getObjects depth f).run answer now state).1 = .ok b := by
    rw [getObjects, bind_eq, run_bind_ofExcept]
    cases hcollected : ((s.collectObjects depth f).run answer now state).1 with
    | error e =>
      rw [hcollected] at h
      cases h
    | ok collected =>
      rw [hcollected] at h
      rw [← Option.some.inj h] at hbuild
      exact hbuild
  exact ⟨b, hrun, conversation_of_run_ok hrun, hrows⟩

end Session

namespace ObjectListing

/-- What a tree of objects shows of a listing. -/
structure Shows (l : ObjectListing) (pattern : Option String) (tree : ObjectTree) : Prop where
  schemas : (tree.schemas.map SchemaNode.name).Nodup
  tables : ∀ s ∈ tree.schemas, (s.tables.map TableNode.name).Nodup
  listed : ∀ e, e ∈ l.tables.map Prod.fst ↔
    ∃ s ∈ tree.schemas, ∃ t ∈ s.tables, e = ⟨s.name, t.name⟩
  names : ∀ s ∈ tree.schemas, ∀ t ∈ s.tables,
    t.columnCells.map (Cell.member? "column_name") =
      (l.columnNames pattern ⟨s.name, t.name⟩).map fun n => some (.text n)
  places : ∀ s ∈ tree.schemas, ∀ t ∈ s.tables,
    t.columnCells.map (Cell.member? "ordinal_position") =
      (List.range' 1 t.columnCells.length).map fun place : Nat => some (.int place)
  distinct : ∀ s ∈ tree.schemas, ∀ t ∈ s.tables,
    (l.tables.map Prod.fst).count ⟨s.name, t.name⟩ = 1 →
      (t.columnCells.map (Cell.member? "column_name")).Nodup

variable {l : ObjectListing} {pattern : Option String}

theorem mem_schemas_tree {s : SchemaNode} :
    s ∈ (l.additions pattern).tree.schemas ↔
      ∃ name ∈ (l.additions pattern).schemas,
        ⟨name, ((l.additions pattern).tables name).map ((l.additions pattern).node name)⟩ = s :=
  List.mem_map

/-- A table of the tree is a table of the listing with what was added for it. -/
theorem node_of_mem {s : SchemaNode} {t : TableNode} (hs : s ∈ (l.additions pattern).tree.schemas)
    (ht : t ∈ s.tables) :
    ⟨s.name, t.name⟩ ∈ l.tables.map Prod.fst ∧ (l.additions pattern).node s.name t.name = t := by
  obtain ⟨schema, -, rfl⟩ := mem_schemas_tree.mp hs
  obtain ⟨table, htable, rfl⟩ := List.mem_map.mp ht
  exact ⟨(l.mem_tables_additions pattern (e := ⟨schema, table⟩)).mp htable, rfl⟩

theorem exists_node {e : TableEntry} (he : e ∈ l.tables.map Prod.fst) :
    ∃ s ∈ (l.additions pattern).tree.schemas, ∃ t ∈ s.tables, e = ⟨s.name, t.name⟩ := by
  have htable := (l.mem_tables_additions pattern).mpr he
  have hschema : e.schema ∈ (l.additions pattern).schemas := by
    by_contra hnone
    rw [Additions.tables_of_not_mem hnone] at htable
    cases htable
  exact ⟨_, mem_schemas_tree.mpr ⟨e.schema, hschema, rfl⟩, _, List.mem_map_of_mem htable, rfl⟩

theorem nodup_columnNames (hdistinct : ∀ p ∈ l.tables, DistinctColumns p.2) {e : TableEntry}
    (honce : (l.tables.map Prod.fst).count e = 1) : (l.columnNames pattern e).Nodup := by
  have hlength : (l.tables.filter fun p => p.1 = e).length = 1 := by
    rw [← honce, List.count, List.countP_map, ← List.countP_eq_length_filter]
    rfl
  obtain ⟨p, hp⟩ := List.length_eq_one_iff.mp hlength
  have hmem : p ∈ l.tables := (List.mem_filter.mp (hp ▸ List.mem_singleton_self p)).1
  rw [columnNames, hp, List.flatMap_singleton]
  exact (hdistinct p hmem).filter _

theorem shows_additions (hdistinct : ∀ p ∈ l.tables, DistinctColumns p.2) :
    l.Shows pattern (l.additions pattern).tree := by
  have hnames : ∀ s ∈ (l.additions pattern).tree.schemas, ∀ t ∈ s.tables,
      t.columnCells.map (Cell.member? "column_name") =
        (l.columnNames pattern ⟨s.name, t.name⟩).map fun n => some (.text n) := by
    intro s hs t ht
    obtain ⟨hlisted, hnode⟩ := node_of_mem hs ht
    rw [TableNode.names_columnCells, ← l.names_columns_additions pattern hlisted, List.map_map,
      ← hnode]
    rfl
  constructor
  case schemas =>
    rw [Additions.tree, namedTree, List.map_map]
    exact (List.map_id _).symm ▸ Additions.nodup_schemas _
  case tables =>
    intro s hs
    obtain ⟨schema, -, rfl⟩ := mem_schemas_tree.mp hs
    rw [List.map_map]
    exact (List.map_id _).symm ▸ Additions.nodup_tables _ schema
  case listed =>
    intro e
    constructor
    · exact exists_node
    · rintro ⟨s, hs, t, ht, rfl⟩
      exact (node_of_mem hs ht).1
  case names => exact hnames
  case places =>
    intro s hs t ht
    rw [TableNode.places_columnCells, ObjectTree.length_columnCells]
  case distinct =>
    intro s hs t ht honce
    rw [hnames s hs t ht]
    refine (nodup_columnNames hdistinct honce).map fun n m heq => ?_
    exact Cell.text.inj (Option.some.inj heq)

end ObjectListing

/-- Whatever the cluster answers, every table has one entry with its columns numbered from one,
and the columns of a table that one row lists have different names. -/
theorem columns_of_table_listed_once {s : Session} {depth : ObjectDepth} {f : ObjectFilter}
    {talk : List ClusterEvent} {b : Batch} (hdepth : depth = .all ∨ depth = .columns)
    (h : Conversation (s.getObjects depth f) talk (.ok b)) :
    ∃ tree : ObjectTree, b.rows = tree.rows ∧
      (f.takesCatalog = false ∧ tree = {} ∨
        ∃ l, Conversation (s.readListing f) talk (.ok l) ∧ l.Shows f.column tree) := by
  cases hcatalog : f.takesCatalog with
  | false =>
    rw [Session.getObjects, Session.collectObjects_of_no_catalog hcatalog, bind_eq, Plan.bind] at h
    have hbuild : (.ok b : Except Failure Batch) = ({} : ObjectTree).build :=
      (conversation_ofExcept_iff.mp h).2
    obtain ⟨b', hb', -, hrows⟩ := ObjectTree.rows_of_build ObjectTree.countable_empty
    cases hbuild.trans hb'
    exact ⟨{}, hrows, .inl ⟨rfl, rfl⟩⟩
  | true =>
    obtain ⟨x, hx, hb⟩ := (Session.conversation_getObjects_iff hdepth hcatalog).mp h
    cases x with
    | error e => cases hb
    | ok l =>
      have hbuild : (l.additions f.column).tree.build = .ok b := hb.symm
      have hshows : l.Shows f.column (l.additions f.column).tree :=
        ObjectListing.shows_additions (hx.yields (s.yields_readListing f))
      exact ⟨_, ObjectTree.rows_of_ok (l.hasCatalog_tree f.column) hbuild, .inr ⟨l, hx, hshows⟩⟩

theorem columns_of_two_tables :
    let s : Session := { parameters := .resolve "adbc:couchbase:h" ['h'] [] none none [] }
    let f : ObjectFilter := { schema := some "default" }
    let row : String → Json := fun table =>
      .object [("TABLE_SCHEM", .text "default"), ("TABLE_NAME", .text table)]
    let replies : List (List Json) :=
      [[row "beers"], [row "beers", row "users"],
       [.object [("abv", .int 5)], .object [("name", .null), ("abv", .null)]],
       [.object [("name", .text "n")]], []]
    let answer : (c : ClusterCall) → Nat → Nat → c.Reply × Nat := fun c _ n =>
      (uniformPeer (.ok ⟨replies[n]?.getD [], none⟩) (.error (.cluster "down")) c, n + 1)
    let beers : TableNode :=
      { name := "beers"
        columns := [⟨"default", "beers", "abv", "numeric", 2⟩, ⟨"default", "beers", "name", "null", 0⟩] }
    let users : TableNode :=
      { name := "users", columns := [⟨"default", "users", "name", "string", 12⟩] }
    ∃ b, ((s.getObjects .columns f).run answer 0 0).1 = .ok b ∧
      b.rows = [[.null, .list [SchemaNode.cell ⟨"default", [beers, users]⟩]]] ∧
      ∃ tree : ObjectTree, b.rows = tree.rows ∧
        (f.takesCatalog = false ∧ tree = {} ∨
          ∃ l, Conversation (s.readListing f) ((s.getObjects .columns f).events answer 0 0) (.ok l) ∧
            l.Shows f.column tree) := by
  intro s f row replies answer beers users
  have htree : ((s.collectObjects .columns f).run answer 0 0).1.toOption =
      some ⟨true, [⟨"default", [beers, users]⟩]⟩ := by decide +kernel
  obtain ⟨b, hrun, htalk, hrows⟩ := Session.exists_run_getObjects htree
    ⟨by decide, by decide, by decide, by decide⟩
  exact ⟨b, hrun, hrows, columns_of_table_listed_once (.inr rfl) htalk⟩

/-- A table with two rows is sampled for each of them, and has every column twice. -/
theorem columns_of_table_listed_twice :
    let s : Session := { parameters := .resolve "adbc:couchbase:h" ['h'] [] none none [] }
    let f : ObjectFilter := { schema := some "default" }
    let row : Json := .object [("TABLE_SCHEM", .text "default"), ("TABLE_NAME", .text "beers")]
    let replies : List (List Json) :=
      [[row], [row, row], [.object [("abv", .int 5)]], [.object [("abv", .int 5)]], []]
    let answer : (c : ClusterCall) → Nat → Nat → c.Reply × Nat := fun c _ n =>
      (uniformPeer (.ok ⟨replies[n]?.getD [], none⟩) (.error (.cluster "down")) c, n + 1)
    let abv : ColumnEntry := ⟨"default", "beers", "abv", "numeric", 2⟩
    let beers : TableNode := { name := "beers", columns := [abv, abv] }
    ∃ b, ((s.getObjects .all f).run answer 0 0).1 = .ok b ∧
      b.rows = [[.null, .list [SchemaNode.cell ⟨"default", [beers]⟩]]] ∧
      beers.columnCells = [abv.cell 1, abv.cell 2] ∧
      ¬ (beers.columnCells.map (Cell.member? "column_name")).Nodup := by
  intro s f row replies answer abv beers
  have htree : ((s.collectObjects .all f).run answer 0 0).1.toOption =
      some ⟨true, [⟨"default", [beers]⟩]⟩ := by decide +kernel
  obtain ⟨b, hrun, -, hrows⟩ := Session.exists_run_getObjects htree
    ⟨by decide, by decide, by decide, by decide⟩
  refine ⟨b, hrun, hrows, rfl, ?_⟩
  simp [TableNode.names_columnCells, beers]

end KeyspaceLink
