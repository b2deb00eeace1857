import KeyspaceLink.Proofs.ObjectListing

/-! Objects with a pattern for the names of columns. The listing is the same as without one,
and so are schemas, tables and keys. The columns that are left keep all they had but their
places, which are counted anew. -/

namespace KeyspaceLink

open Plan

section Places

variable {α : Type} (keep : α → Bool)

theorem map_fst_filter_zipIdx (l : List α) (n : Nat) :
    ((l.zipIdx n).filter fun q => keep q.1).map Prod.fst = l.filter keep := by
  have hcomp : (fun q : α × Nat => keep q.1) = keep ∘ Prod.fst := rfl
  rw [hcomp, ← List.filter_map, List.zipIdx_map_fst]

/-- What is kept has the first places just if it comes first. -/
theorem places_filter_iff (l : List α) (n : Nat) :
    ((l.zipIdx n).filter fun q => keep q.1).map Prod.snd = List.range' n (l.filter keep).length ↔
      l.filter keep <+: l := by
  induction l generalizing n with
  | nil => simp
  | cons a l ih =>
    by_cases ha : keep a = true
    · simp [ha, List.range'_succ, ih]
    · have hdrop : (a :: l).filter keep = l.filter keep := List.filter_cons_of_neg ha
      have hdropPlaces : (((a :: l).zipIdx n).filter fun q => keep q.1) =
          (l.zipIdx (n + 1)).filter fun q => keep q.1 := List.filter_cons_of_neg ha
      rw [hdrop, hdropPlaces]
      cases hkept : l.filter keep with
      | nil =>
        have hnone : ((l.zipIdx (n + 1)).filter fun q => keep q.1) = [] := by
          rw [← map_fst_filter_zipIdx keep l (n + 1)] at hkept
          exact List.map_eq_nil_iff.mp hkept
        simp [hnone]
      | cons b rest =>
        -- the places after the one left out are later than the first
        have hlater : n ∉ ((l.zipIdx (n + 1)).filter fun q => keep q.1).map Prod.snd := by
          intro hmem
          obtain ⟨q, hq, rfl⟩ := List.mem_map.mp hmem
          have hle := List.le_snd_of_mem_zipIdx (List.mem_filter.mp hq).1
          omega
        have hb : keep b = true := (List.mem_filter.mp (hkept ▸ List.mem_cons_self)).2
        constructor
        · intro heq
          rw [heq, List.length_cons, List.range'_succ] at hlater
          exact absurd List.mem_cons_self hlater
        · intro hprefix
          rw [(List.cons_prefix_cons.mp hprefix).1] at hb
          exact absurd hb ha

end Places

def TableNode.keepColumns (p : String) (t : TableNode) : TableNode :=
  { t with columns := t.columns.filter fun c => likeMatches (some p) c.name }

/-- Leaves out the columns whose name does not match. -/
def ObjectTree.keepColumns (p : String) (tree : ObjectTree) : ObjectTree :=
  { tree with schemas := tree.schemas.map fun s => { s with tables := s.tables.map (.keepColumns p) } }

section Cells

def Cell.nameMatches (p : String) (c : Cell) : Bool :=
  match c.member? "column_name" with
  | some (.text name) => likeMatches (some p) name
  | _ => false

def Cell.without (name : String) : Cell → Cell
  | .record members => .record (members.filter fun m => m.1 != name)
  | c => c

variable (p : String) (t : TableNode)

theorem TableNode.filter_columnCells :
    t.columnCells.filter (Cell.nameMatches p) =
      ((t.columns.zipIdx 1).filter fun q => likeMatches (some p) q.1.name).map fun q =>
        q.1.cell q.2 := by
  rw [columnCells, List.filter_map]
  rfl

theorem TableNode.keepColumns_cells :
    (t.keepColumns p).columnCells.map (Cell.without "ordinal_position") =
      (t.columnCells.filter (Cell.nameMatches p)).map (Cell.without "ordinal_position") := by
  have hcell : Cell.without "ordinal_position" ∘ (fun q : ColumnEntry × Nat => q.1.cell q.2) =
      (fun c : ColumnEntry => (c.cell 0).without "ordinal_position") ∘ Prod.fst := rfl
  rw [filter_columnCells, columnCells, List.map_map, List.map_map, hcell, ← List.map_map,
    ← List.map_map, List.zipIdx_map_fst,
    map_fst_filter_zipIdx fun c : ColumnEntry => likeMatches (some p) c.name]
  rfl

/-- Only where no column is left out before one that is kept do the entries stay as they were. -/
theorem TableNode.keepColumns_cells_iff :
    (t.keepColumns p).columnCells = t.columnCells.filter (Cell.nameMatches p) ↔
      (t.keepColumns p).columns <+: t.columns := by
  let keep : ColumnEntry → Bool := fun c => likeMatches (some p) c.name
  have hplace : Cell.member? "ordinal_position" ∘ (fun q : ColumnEntry × Nat => q.1.cell q.2) =
      (fun place : Nat => some (.int place)) ∘ Prod.snd := rfl
  have hinjective : Function.Injective fun place : Nat => some (Cell.int place) := by
    intro i j heq
    exact Int.ofNat_inj.mp (Cell.int.inj (Option.some.inj heq))
  refine Iff.trans ?_ (places_filter_iff keep t.columns 1)
  rw [filter_columnCells]
  constructor
  · intro heq
    have hplaces := congrArg (List.map (Cell.member? "ordinal_position")) heq
    rw [places_columnCells, List.map_map, hplace, ← List.map_map] at hplaces
    exact (List.map_injective_iff.mpr hinjective hplaces).symm
  · intro hplaces
    -- the same columns at the same places
    have hzip : ((t.columns.zipIdx 1).filter fun q => keep q.1) =
        (t.columns.filter keep).zipIdx 1 := by
      rw [List.zip_of_prod (map_fst_filter_zipIdx keep t.columns 1) hplaces,
        List.zipIdx_eq_zip_range']
    rw [hzip]
    rfl

end Cells

section Trees

variable {tree : ObjectTree}

theorem tables_keepColumns (p : String) :
    (tree.keepColumns p).tables = tree.tables.map (TableNode.keepColumns p) := by
  simp only [ObjectTree.tables, ObjectTree.keepColumns, List.flatMap_map, List.map_flatMap]

theorem keepColumns_namedTree {hasCatalog : Bool} {schemas : List String}
    {tables : String → List String} {node : String → String → TableNode} (p : String) :
    (namedTree hasCatalog schemas tables node).keepColumns p =
      namedTree hasCatalog schemas tables fun s t => (node s t).keepColumns p := by
  simp [namedTree, ObjectTree.keepColumns, Function.comp_def]

theorem ObjectTree.Countable.keepColumns (h : tree.Countable) (p : String) :
    (tree.keepColumns p).Countable := by
  have hcolumns : ((tree.keepColumns p).tables.flatMap TableNode.columns) =
      (tree.tables.flatMap TableNode.columns).filter fun c => likeMatches (some p) c.name := by
    rw [tables_keepColumns, List.flatMap_map, List.filter_flatMap]
    rfl
  have hkeys : ((tree.keepColumns p).tables.flatMap TableNode.keys) =
      tree.tables.flatMap TableNode.keys := by
    rw [tables_keepColumns, List.flatMap_map]
    rfl
  constructor
  case schemas =>
    rw [ObjectTree.keepColumns, List.length_map]
    exact h.schemas
  case tables =>
    rw [tables_keepColumns, List.length_map]
    exact h.tables
  case columns =>
    rw [hcolumns]
    exact lt_of_le_of_lt (List.length_filter_le _ _) h.columns
  case keys =>
    rw [hkeys]
    exact h.keys

theorem ObjectTree.build_eq_error {e : Failure} (h : tree.build = .error e) :
    e = .invalidState "Failed to build get_objects result" := by
  rw [build] at h
  split at h
  · cases h
  · exact (Except.error.inj h).symm

end Trees

namespace ObjectListing

variable (l : ObjectListing) (p : String)

theorem columns_of_pattern (e : TableEntry) (sampled : List SampledColumn) :
    e.columns (some p) sampled =
      (e.columns none sampled).filter fun c => likeMatches (some p) c.name := by
  rw [TableEntry.columns, TableEntry.columns, List.filter_map]
  have hall : (sampled.filter fun c => likeMatches none c.name) = sampled :=
    List.filter_eq_self.mpr fun _ _ => rfl
  rw [hall]
  rfl

theorem node_of_pattern {e : TableEntry} (he : e ∈ l.tables.map Prod.fst) :
    (l.additions (some p)).node e.schema e.name =
      ((l.additions none).node e.schema e.name).keepColumns p := by
  rw [Additions.node, Additions.node, TableNode.keepColumns, l.columns_additions _ he,
    l.columns_additions _ he, l.keys_additions _ he, l.keys_additions _ he, List.filter_flatMap]
  simp only [columns_of_pattern]

/-- A pattern leaves out columns and changes nothing else. -/
theorem tree_of_pattern :
    (l.additions (some p)).tree = (l.additions none).tree.keepColumns p := by
  have hschemas : (l.additions (some p)).schemas = (l.additions none).schemas := by
    rw [schemas_additions, schemas_additions]
  have htables : (l.additions (some p)).tables = (l.additions none).tables := by
    funext schema
    rw [tables_additions, tables_additions]
  have hcatalog : (l.additions (some p)).any Addition.showsCatalog =
      (l.additions none).any Addition.showsCatalog := by
    simp [additions, Addition.showsCatalog]
  rw [Additions.tree, Additions.tree, hcatalog, hschemas, htables, keepColumns_namedTree]
  refine namedTree_congr (fun _ _ => rfl) fun schema _ table htable => ?_
  exact l.node_of_pattern p ((l.mem_tables_additions none (e := ⟨schema, table⟩)).mp htable)

end ObjectListing

section Results

variable {s : Session} {depth : ObjectDepth} {f : ObjectFilter}

theorem collectObjects_of_pattern (hdepth : depth = .all ∨ depth = .columns) (p : String) :
    s.collectObjects depth { f with column := some p } =
      (s.collectObjects depth { f with column := none }).bind fun tree =>
        .done (tree.keepColumns p) := by
  have htakes : ∀ column, ObjectFilter.takesCatalog { f with column } = f.takesCatalog :=
    fun _ => rfl
  cases hcatalog : f.takesCatalog with
  | false =>
    rw [Session.collectObjects_of_no_catalog ((htakes _).trans hcatalog),
      Session.collectObjects_of_no_catalog ((htakes _).trans hcatalog)]
    rfl
  | true =>
    rw [Session.collectObjects_eq hdepth ((htakes _).trans hcatalog),
      Session.collectObjects_eq hdepth ((htakes _).trans hcatalog), Plan.bind_assoc]
    simp only [ObjectListing.tree_of_pattern]
    rfl

theorem yields_collectObjects (hdepth : depth = .all ∨ depth = .columns) :
    (s.collectObjects depth f).Yields fun tree => tree.hasCatalog = true ∨ tree = {} := by
  cases hcatalog : f.takesCatalog with
  | false =>
    rw [Session.collectObjects_of_no_catalog hcatalog]
    exact .done (.inr rfl)
  | true =>
    rw [Session.collectObjects_eq hdepth hcatalog]
    exact .last _ fun l => .done (.inl (l.hasCatalog_tree _))

theorem countable_of_collected {tree : ObjectTree} {b : Batch}
    (htree : tree.hasCatalog = true ∨ tree = {}) (h : tree.build = .ok b) : tree.Countable := by
  rcases htree with hcatalog | rfl
  · exact ObjectTree.countable_of_build hcatalog h
  · exact ObjectTree.countable_empty

end Results

/-- A pattern for the names of columns changes neither what is asked nor how that fails. It
leaves out the columns that do not match, and the entries of the others are the same but for
their places; these too are the same just if what is left comes first in its table. -/
theorem objects_of_column_pattern {s : Session} {depth : ObjectDepth} {f : ObjectFilter}
    {p : String} {talk : List ClusterEvent} (hdepth : depth = .all ∨ depth = .columns) :
    ((∃ outcome, Conversation (s.getObjects depth { f with column := some p }) talk outcome) ↔
      ∃ outcome, Conversation (s.getObjects depth { f with column := none }) talk outcome) ∧
    (∀ e, Conversation (s.getObjects depth { f with column := some p }) talk (.error e) →
      Conversation (s.getObjects depth { f with column := none }) talk (.error e)) ∧
    ∀ b, Conversation (s.getObjects depth { f with column := none }) talk (.ok b) →
      ∃ (b' : Batch) (tree : ObjectTree),
        Conversation (s.getObjects depth { f with column := some p }) talk (.ok b') ∧
        b.rows = tree.rows ∧ b'.rows = (tree.keepColumns p).rows ∧
        ∀ t ∈ tree.tables,
          (t.keepColumns p).columnCells.map (Cell.without "ordinal_position") =
            (t.columnCells.filter (Cell.nameMatches p)).map (Cell.without "ordinal_position") ∧
          ((t.keepColumns p).columnCells = t.columnCells.filter (Cell.nameMatches p) ↔
            (t.keepColumns p).columns <+: t.columns) := by
  have hall : ∀ outcome, Conversation (s.getObjects depth { f with column := none }) talk outcome ↔
      ∃ x, Conversation (s.collectObjects depth { f with column := none }) talk x ∧
        outcome = x.bind ObjectTree.build :=
    fun outcome => conversation_bind_ofExcept_iff
  have hkept : ∀ outcome, Conversation (s.getObjects depth { f with column := some p }) talk outcome ↔
      ∃ x, Conversation (s.collectObjects depth { f with column := none }) talk x ∧
        outcome = x.bind fun tree => (tree.keepColumns p).build := by
    intro outcome
    rw [Session.getObjects, collectObjects_of_pattern hdepth, bind_eq, Plan.bind_assoc]
    exact conversation_bind_ofExcept_iff
  simp only [hall, hkept]
  refine ⟨?_, ?_, ?_⟩
  · constructor
    · rintro ⟨_, x, hx, -⟩
      exact ⟨_, x, hx, rfl⟩
    · rintro ⟨_, x, hx, -⟩
      exact ⟨_, x, hx, rfl⟩
  · rintro e ⟨x, hx, he⟩
    refine ⟨x, hx, ?_⟩
    cases x with
    | error e' => exact he
    | ok tree =>
      -- what is left of a tree that can be counted can be counted, so both fail or none
      have herror := ObjectTree.build_eq_error he.symm
      cases hbuild : tree.build with
      | error e' =>
        rw [herror, ← ObjectTree.build_eq_error hbuild]
        exact hbuild.symm
      | ok b =>
        have hcount := countable_of_collected (hx.yields (yields_collectObjects hdepth)) hbuild
        obtain ⟨b', hb', -⟩ := ObjectTree.rows_of_build (hcount.keepColumns p)
        cases he.trans hb'
  · rintro b ⟨x, hx, hb⟩
    cases x with
    | error e => cases hb
    | ok tree =>
      have hcount := countable_of_collected (hx.yields (yields_collectObjects hdepth)) hb.symm
      obtain ⟨b₁, hb₁, -, hrows⟩ := ObjectTree.rows_of_build hcount
      obtain ⟨b', hb', -, hrows'⟩ := ObjectTree.rows_of_build (hcount.keepColumns p)
      cases hb.trans hb₁
      exact ⟨b', tree, ⟨.ok tree, hx, hb'.symm⟩, hrows, hrows',
        fun t _ => ⟨t.keepColumns_cells p, t.keepColumns_cells_iff p⟩⟩

theorem objects_of_first_column :
    let s : Session := { parameters := .resolve "adbc:couchbase:h" ['h'] [] none none [] }
    let f : ObjectFilter := { schema := some "default" }
    let row : Json := .object [("TABLE_SCHEM", .text "default"), ("TABLE_NAME", .text "beers")]
    let document : Json := .object [("abv", .int 5), ("name", .text "ale")]
    let replies : List (List Json) := [[row], [row], [document], []]
    let answer : (c : ClusterCall) → Nat → Nat → c.Reply × Nat := fun c _ n =>
      (uniformPeer (.ok ⟨replies[n]?.getD [], none⟩) (.error (.cluster "down")) c, n + 1)
    let talk := (s.getObjects .all f).events answer 0 0
    let abv : ColumnEntry := ⟨"default", "beers", "abv", "numeric", 2⟩
    let name : ColumnEntry := ⟨"default", "beers", "name", "string", 12⟩
    let beers : TableNode := { name := "beers", columns := [abv, name] }
    (beers.keepColumns "a%").columns = [abv] ∧ [abv] <+: beers.columns ∧
      ∃ b, Conversation (s.getObjects .all f) talk (.ok b) ∧
        b.rows = [[.null, .list [SchemaNode.cell ⟨"default", [beers]⟩]]] ∧
        ∃ (b' : Batch) (tree : ObjectTree),
          Conversation (s.getObjects .all { f with column := some "a%" }) talk (.ok b') ∧
          b.rows = tree.rows ∧ b'.rows = (tree.keepColumns "a%").rows ∧
          ∀ t ∈ tree.tables,
            (t.keepColumns "a%").columnCells.map (Cell.without "ordinal_position") =
              (t.columnCells.filter (Cell.nameMatches "a%")).map (Cell.without "ordinal_position") ∧
            ((t.keepColumns "a%").columnCells = t.columnCells.filter (Cell.nameMatches "a%") ↔
              (t.keepColumns "a%").columns <+: t.columns) := by
  intro s f row document replies answer talk abv name beers
  have htree : ((s.collectObjects .all f).run answer 0 0).1.toOption =
      some ⟨true, [⟨"default", [beers]⟩]⟩ := by decide +kernel
  obtain ⟨b, -, htalk, hrows⟩ := Session.exists_run_getObjects htree
    ⟨by decide, by decide, by decide, by decide⟩
  exact ⟨by decide +kernel, ⟨[name], rfl⟩, b, htalk, hrows,
    (objects_of_column_pattern (.inl rfl)).2.2 b htalk⟩

/-- The second column of a table is the first one once the pattern leaves out the one before. -/
theorem objects_of_second_column :
    let s : Session := { parameters := .resolve "adbc:couchbase:h" ['h'] [] none none [] }
    let f : ObjectFilter := { schema := some "default" }
    let row : Json := .object [("TABLE_SCHEM", .text "default"), ("TABLE_NAME", .text "beers")]
    let document : Json := .object [("abv", .int 5), ("name", .text "ale")]
    let replies : List (List Json) := [[row], [row], [document], []]
    let answer : (c : ClusterCall) → Nat → Nat → c.Reply × Nat := fun c _ n =>
      (uniformPeer (.ok ⟨replies[n]?.getD [], none⟩) (.error (.cluster "down")) c, n + 1)
    let abv : ColumnEntry := ⟨"default", "beers", "abv", "numeric", 2⟩
    let name : ColumnEntry := ⟨"default", "beers", "name", "string", 12⟩
    let all : TableNode := { name := "beers", columns := [abv, name] }
    let kept : TableNode := { name := "beers", columns := [name] }
    ∃ b b', ((s.getObjects .all f).run answer 0 0).1 = .ok b ∧
      ((s.getObjects .all { f with column := some "name" }).run answer 0 0).1 = .ok b' ∧
      b.rows = [[.null, .list [SchemaNode.cell ⟨"default", [all]⟩]]] ∧
      b'.rows = [[.null, .list [SchemaNode.cell ⟨"default", [kept]⟩]]] ∧
      all.columnCells.filter (Cell.nameMatches "name") = [name.cell 2] ∧
      kept.columnCells = [name.cell 1] ∧ name.cell 1 ≠ name.cell 2 := by
  intro s f row document replies answer abv name all kept
  have hall : ((s.collectObjects .all f).run answer 0 0).1.toOption =
      some ⟨true, [⟨"default", [all]⟩]⟩ := by decide +kernel
  have hkept : ((s.collectObjects .all { f with column := some "name" }).run answer 0 0).1.toOption =
      some ⟨true, [⟨"default", [kept]⟩]⟩ := by decide +kernel
  have hplaces : ((all.columns.zipIdx 1).filter fun q => likeMatches (some "name") q.1.name) =
      [(name, 2)] := by decide +kernel
  obtain ⟨b, hrun, -, hrows⟩ := Session.exists_run_getObjects hall
    ⟨by decide, by decide, by decide, by decide⟩
  obtain ⟨b', hrun', -, hrows'⟩ := Session.exists_run_getObjects hkept
    ⟨by decide, by decide, by decide, by decide⟩
  refine ⟨b, b', hrun, hrun', hrows, hrows', ?_, rfl, ?_⟩
  · rw [TableNode.filter_columnCells, hplaces]
    rfl
  · intro heq
    have hplace := congrArg (Cell.member? "ordinal_position") heq
    rw [ColumnEntry.cell_place, ColumnEntry.cell_place] at hplace
    cases hplace

end KeyspaceLink
