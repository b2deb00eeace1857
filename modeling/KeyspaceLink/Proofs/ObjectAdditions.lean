import KeyspaceLink.Proofs.ObjectRows

/-! The tree of objects after any sequence of additions, read off the sequence itself: what
is listed, in the order of its first addition, and below a table what was added for it once
the table was there. -/

namespace KeyspaceLink

inductive Addition
  | catalog
  | schema (name : String)
  | table (entry : TableEntry)
  | columns (entries : List ColumnEntry)
  | keys (entries : List KeyEntry)
deriving DecidableEq

namespace Addition

def perform (t : ObjectTree) : Addition → ObjectTree
  | catalog => t.addCatalog
  | schema name => t.addSchema name
  | table entry => t.addTable entry
  | columns entries => t.addColumns entries
  | keys entries => t.addKeys entries

def showsCatalog : Addition → Bool
  | catalog | schema _ | table _ => true
  | columns _ | keys _ => false

/-- A table brings its schema along. -/
def schemaName? : Addition → Option String
  | schema name => some name
  | table entry => some entry.schema
  | _ => none

def tableName? (schema : String) : Addition → Option String
  | table entry => if entry.schema = schema then some entry.name else none
  | _ => none

def columnsOf (schema table : String) : Addition → List ColumnEntry
  | columns entries => entries.filter fun c => c.schema = schema ∧ c.table = table
  | _ => []

def keysOf (schema table : String) : Addition → List KeyEntry
  | keys entries => entries.filter fun k => k.schema = schema ∧ k.table = table
  | _ => []

end Addition

abbrev Additions := List Addition

namespace Additions

def schemas (h : Additions) : List String := (h.filterMap Addition.schemaName?).eraseDups

def tables (h : Additions) (schema : String) : List String :=
  (h.filterMap (Addition.tableName? schema)).eraseDups

/-- The additions from the first one of the table on. -/
def since (h : Additions) (schema table : String) : Additions :=
  h.dropWhile fun a => a ≠ .table ⟨schema, table⟩

def columns (h : Additions) (schema table : String) : List ColumnEntry :=
  (h.since schema table).flatMap (Addition.columnsOf schema table)

def keys (h : Additions) (schema table : String) : List KeyEntry :=
  (h.since schema table).flatMap (Addition.keysOf schema table)

def node (h : Additions) (schema table : String) : TableNode where
  name := table
  columns := h.columns schema table
  keys := h.keys schema table

end Additions

def namedTree (hasCatalog : Bool) (schemas : List String) (tables : String → List String)
    (node : String → String → TableNode) : ObjectTree where
  hasCatalog := hasCatalog
  schemas := schemas.map fun s => ⟨s, (tables s).map (node s)⟩

/-- What the additions come to. -/
def Additions.tree (h : Additions) : ObjectTree :=
  namedTree (h.any Addition.showsCatalog) h.schemas h.tables h.node

section FirstSeen

variable {α : Type} [DecidableEq α]

/-- Goes to the end unless it is there. -/
def addNew (a : α) (l : List α) : List α := if a ∈ l then l else l ++ [a]

theorem eraseDups_concat [BEq α] [LawfulBEq α] (l : List α) (a : α) :
    (l ++ [a]).eraseDups = addNew a l.eraseDups := by
  rw [List.eraseDups_append, addNew]
  by_cases h : a ∈ l
  · simp [List.removeAll, h]
  · simp [List.removeAll, h, List.eraseDups_cons]

theorem nodup_addNew {a : α} {l : List α} (h : l.Nodup) : (addNew a l).Nodup := by
  rw [addNew]
  split
  · exact h
  · next hnew => exact List.nodup_append_comm.mpr (List.nodup_cons.mpr ⟨hnew, h⟩)

theorem nodup_eraseDups [BEq α] [LawfulBEq α] (l : List α) : l.eraseDups.Nodup := by
  induction l using List.reverseRecOn with
  | nil => exact List.nodup_nil
  | append_singleton l a ih =>
    rw [eraseDups_concat]
    exact nodup_addNew ih

end FirstSeen

section ChangeFirst

variable {β : Type} {names : List String} {item : String → β} {name : β → String}

theorem changeFirst_map (hnames : names.Nodup) (hname : ∀ n, name (item n) = n) (f : β → β)
    (n : String) :
    changeFirst (fun b => name b == n) f (names.map item) =
      names.map fun m => if m = n then f (item m) else item m := by
  induction names with
  | nil => rfl
  | cons m names ih =>
    obtain ⟨hm, hrest⟩ := List.nodup_cons.mp hnames
    rw [List.map_cons, List.map_cons, changeFirst, hname]
    by_cases heq : m = n
    · have hsame : ∀ k ∈ names, (if k = n then f (item k) else item k) = item k := by
        intro k hk
        refine if_neg ?_
        rintro rfl
        exact hm (heq ▸ hk)
      rw [if_pos (beq_iff_eq.mpr heq), if_pos heq, List.map_congr_left hsame]
    · rw [if_neg (by simpa using heq), if_neg heq, ih hrest]

theorem any_map_name (hname : ∀ n, name (item n) = n) (n : String) :
    ((names.map item).any fun b => name b == n) = decide (n ∈ names) := by
  simp [List.any_map, Function.comp_def, hname, List.any_beq']

end ChangeFirst

section NamedTree

variable {hasCatalog : Bool} {schemas schemas' : List String} {tables tables' : String → List String}
  {node node' : String → String → TableNode}

theorem namedTree_congr (htables : ∀ s ∈ schemas, tables s = tables' s)
    (hnode : ∀ s ∈ schemas, ∀ t ∈ tables s, node s t = node' s t) :
    namedTree hasCatalog schemas tables node = namedTree hasCatalog schemas tables' node' := by
  have hmap : ∀ s ∈ schemas, (⟨s, (tables s).map (node s)⟩ : SchemaNode) =
      ⟨s, (tables' s).map (node' s)⟩ := by
    intro s hs
    rw [List.map_congr_left (hnode s hs), htables s hs]
  rw [namedTree, namedTree, List.map_congr_left hmap]

theorem addSchema_namedTree {name : String} (hnew : name ∉ schemas → tables name = []) :
    (namedTree hasCatalog schemas tables node).addSchema name =
      namedTree true (addNew name schemas) tables node := by
  rw [ObjectTree.addSchema]
  simp only [namedTree, addNew]
  by_cases h : name ∈ schemas
  · simp [h]
  · simp [h, hnew h]

theorem changeTable_namedTree (hschemas : schemas.Nodup) (htables : ∀ s, (tables s).Nodup)
    (hnode : ∀ s t, (node s t).name = t) (schema table : String) (f : TableNode → TableNode) :
    (namedTree hasCatalog schemas tables node).changeTable schema table f =
      namedTree hasCatalog schemas tables fun s t =>
        if s = schema ∧ t = table then f (node s t) else node s t := by
  rw [ObjectTree.changeTable]
  simp only [namedTree]
  rw [changeFirst_map hschemas fun _ => rfl]
  congr 1
  refine List.map_congr_left fun s _ => ?_
  by_cases hs : s = schema
  · rw [if_pos hs, changeFirst_map (htables s) (hnode s)]
    simp [hs]
  · simp [hs]

theorem addTable_namedTree (hschemas : schemas.Nodup) (entry : TableEntry)
    (hnew : entry.schema ∉ schemas → tables entry.schema = [])
    (hnode : ∀ s t, (node s t).name = t)
    (hempty : entry.name ∉ tables entry.schema →
      node entry.schema entry.name = { name := entry.name }) :
    (namedTree hasCatalog schemas tables node).addTable entry =
      namedTree true (addNew entry.schema schemas)
        (fun s => if s = entry.schema then addNew entry.name (tables s) else tables s) node := by
  rw [ObjectTree.addTable, addSchema_namedTree hnew]
  simp only [namedTree]
  rw [changeFirst_map (nodup_addNew hschemas) fun _ => rfl]
  congr 1
  refine List.map_congr_left fun s _ => ?_
  by_cases hs : s = entry.schema
  · subst hs
    simp only [if_pos, any_map_name (hnode entry.schema), addNew]
    by_cases ht : entry.name ∈ tables entry.schema
    · simp [ht]
    · simp [ht, hempty ht]
  · simp [hs]

theorem foldl_changeTable_namedTree {ε : Type} (hschemas : schemas.Nodup)
    (htables : ∀ s, (tables s).Nodup) (hnode : ∀ s t, (node s t).name = t)
    (schema table : ε → String) (put : TableNode → ε → TableNode)
    (hput : ∀ n e, (put n e).name = n.name) (entries : List ε) :
    entries.foldl (fun t e => t.changeTable (schema e) (table e) fun n => put n e)
        (namedTree hasCatalog schemas tables node) =
      namedTree hasCatalog schemas tables fun s t =>
        (entries.filter fun e => schema e = s ∧ table e = t).foldl put (node s t) := by
  induction entries generalizing node with
  | nil => rfl
  | cons e entries ih =>
    rw [List.foldl_cons, changeTable_namedTree hschemas htables hnode, ih]
    -- the first entry is put where it belongs, and the others are filtered as before
    · congr 1
      funext s t
      by_cases h : s = schema e ∧ t = table e
      · obtain ⟨rfl, rfl⟩ := h
        simp
      · have hne : ¬ (schema e = s ∧ table e = t) := fun hst => h ⟨hst.1.symm, hst.2.symm⟩
        simp [h, hne]
    · intro s t
      split
      · rw [hput, hnode]
      · exact hnode s t

end NamedTree

namespace Additions

variable {h : Additions} {a : Addition} {s t : String}

theorem mem_tables_iff : t ∈ h.tables s ↔ Addition.table ⟨s, t⟩ ∈ h := by
  rw [tables, List.mem_eraseDups, List.mem_filterMap]
  constructor
  · rintro ⟨a, ha, heq⟩
    cases a <;> simp only [Addition.tableName?, reduceCtorEq, Option.ite_none_right_eq_some,
      Option.some.injEq] at heq
    obtain ⟨rfl, rfl⟩ := heq
    exact ha
  · intro ha
    exact ⟨_, ha, by simp [Addition.tableName?]⟩

theorem tables_of_not_mem (hs : s ∉ h.schemas) : h.tables s = [] := by
  rw [List.eq_nil_iff_forall_not_mem]
  intro t ht
  exact hs (List.mem_eraseDups.mpr (List.mem_filterMap.mpr ⟨_, mem_tables_iff.mp ht, rfl⟩))

theorem name_node (h : Additions) (s t : String) : (h.node s t).name = t := rfl

theorem nodup_schemas (h : Additions) : h.schemas.Nodup := nodup_eraseDups _

theorem nodup_tables (h : Additions) (s : String) : (h.tables s).Nodup := nodup_eraseDups _

theorem schemas_concat (h : Additions) (a : Addition) :
    (h ++ [a]).schemas = a.schemaName?.elim h.schemas fun n => addNew n h.schemas := by
  rw [schemas, List.filterMap_append]
  cases hname : a.schemaName? with
  | none => simp [hname, schemas]
  | some n => simp [hname, schemas, eraseDups_concat]

theorem tables_concat (h : Additions) (a : Addition) (s : String) :
    (h ++ [a]).tables s = (a.tableName? s).elim (h.tables s) fun t => addNew t (h.tables s) := by
  rw [tables, List.filterMap_append]
  cases hname : a.tableName? s with
  | none => simp [hname, tables]
  | some t => simp [hname, tables, eraseDups_concat]

theorem since_of_not_mem (ht : t ∉ h.tables s) : h.since s t = [] := by
  rw [since, List.dropWhile_eq_nil_iff]
  intro a ha
  rw [decide_eq_true_eq]
  rintro rfl
  exact ht (mem_tables_iff.mpr ha)

theorem since_append_of_mem (ht : t ∈ h.tables s) (more : Additions) :
    (h ++ more).since s t = h.since s t ++ more := by
  have hne : h.since s t ≠ [] := by
    rw [since, Ne, List.dropWhile_eq_nil_iff]
    intro hall
    simpa using hall _ (mem_tables_iff.mp ht)
  rw [since, List.dropWhile_append]
  exact if_neg (mt List.isEmpty_iff.mp hne)

theorem since_concat_of_not_mem (ht : t ∉ h.tables s) (a : Addition) :
    (h ++ [a]).since s t ⊆ [a] := by
  rw [since, List.dropWhile_append, ← since, since_of_not_mem ht]
  exact (List.dropWhile_sublist _).subset

theorem node_concat_of_mem (ht : t ∈ h.tables s) (a : Addition) :
    (h ++ [a]).node s t =
      ⟨t, h.columns s t ++ a.columnsOf s t, h.keys s t ++ a.keysOf s t⟩ := by
  simp [node, columns, keys, since_append_of_mem ht]

theorem node_of_not_mem (ht : t ∉ h.tables s) : h.node s t = { name := t } := by
  simp [node, columns, keys, since_of_not_mem ht]

theorem node_concat_table (h : Additions) (entry : TableEntry) (s t : String) :
    (h ++ [Addition.table entry]).node s t = h.node s t := by
  by_cases ht : t ∈ h.tables s
  · rw [node_concat_of_mem ht, node]
    simp [Addition.columnsOf, Addition.keysOf]
  · have hsince : ∀ a ∈ (h ++ [Addition.table entry]).since s t, a = Addition.table entry := fun a ha =>
      List.mem_singleton.mp (since_concat_of_not_mem ht _ ha)
    have hcolumns : (h ++ [Addition.table entry]).columns s t = [] :=
      List.flatMap_eq_nil_iff.mpr fun a ha => by rw [hsince a ha]; rfl
    have hkeys : (h ++ [Addition.table entry]).keys s t = [] :=
      List.flatMap_eq_nil_iff.mpr fun a ha => by rw [hsince a ha]; rfl
    rw [node_of_not_mem ht, node, hcolumns, hkeys]

/-- An addition that lists no table leaves every table what it adds for it. -/
theorem tree_concat (hname : ∀ s, a.tableName? s = none) :
    (h ++ [a]).tree = namedTree (h.any Addition.showsCatalog || a.showsCatalog)
      (a.schemaName?.elim h.schemas fun n => addNew n h.schemas) h.tables
      fun s t => ⟨t, h.columns s t ++ a.columnsOf s t, h.keys s t ++ a.keysOf s t⟩ := by
  have htables : (h ++ [a]).tables = h.tables := by
    funext s
    rw [tables_concat, hname, Option.elim_none]
  rw [tree, schemas_concat, htables, List.any_append, List.any_cons, List.any_nil, Bool.or_false]
  exact namedTree_congr (fun _ _ => rfl) fun s _ t ht => node_concat_of_mem ht a

theorem addTable_tree (h : Additions) (entry : TableEntry) :
    h.tree.addTable entry = (h ++ [Addition.table entry]).tree := by
  have htables : (h ++ [Addition.table entry]).tables = fun s =>
      if s = entry.schema then addNew entry.name (h.tables s) else h.tables s := by
    funext s
    rw [tables_concat, Addition.tableName?]
    by_cases hs : s = entry.schema
    · rw [if_pos hs, if_pos hs.symm, Option.elim_some]
    · rw [if_neg hs, if_neg (Ne.symm hs), Option.elim_none]
  have hnode : (h ++ [Addition.table entry]).node = h.node := by
    funext s t
    exact node_concat_table h entry s t
  rw [tree, addTable_namedTree h.nodup_schemas entry tables_of_not_mem h.name_node
    node_of_not_mem, tree, schemas_concat, htables, hnode]
  simp [Addition.showsCatalog, Addition.schemaName?]

theorem foldl_columns (entries : List ColumnEntry) (n : TableNode) :
    entries.foldl (fun n c => { n with columns := n.columns ++ [c] }) n =
      { n with columns := n.columns ++ entries } := by
  induction entries generalizing n with
  | nil => simp
  | cons c entries ih => simp [ih]

theorem foldl_keys (entries : List KeyEntry) (n : TableNode) :
    entries.foldl (fun n k => { n with keys := n.keys ++ [k] }) n =
      { n with keys := n.keys ++ entries } := by
  induction entries generalizing n with
  | nil => simp
  | cons k entries ih => simp [ih]

theorem addColumns_tree (h : Additions) (entries : List ColumnEntry) :
    h.tree.addColumns entries = (h ++ [Addition.columns entries]).tree := by
  rw [tree_concat fun _ => rfl]
  refine (foldl_changeTable_namedTree h.nodup_schemas h.nodup_tables h.name_node
    ColumnEntry.schema ColumnEntry.table (fun n c => { n with columns := n.columns ++ [c] })
    (fun _ _ => rfl) entries).trans ?_
  simp only [foldl_columns, node]
  simp [Addition.showsCatalog, Addition.schemaName?, Addition.columnsOf, Addition.keysOf]

theorem addKeys_tree (h : Additions) (entries : List KeyEntry) :
    h.tree.addKeys entries = (h ++ [Addition.keys entries]).tree := by
  rw [tree_concat fun _ => rfl]
  refine (foldl_changeTable_namedTree h.nodup_schemas h.nodup_tables h.name_node
    KeyEntry.schema KeyEntry.table (fun n k => { n with keys := n.keys ++ [k] })
    (fun _ _ => rfl) entries).trans ?_
  simp only [foldl_keys, node]
  simp [Addition.showsCatalog, Addition.schemaName?, Addition.columnsOf, Addition.keysOf]

theorem perform_tree (h : Additions) (a : Addition) : a.perform h.tree = (h ++ [a]).tree := by
  cases a with
  | catalog =>
    rw [tree_concat fun _ => rfl]
    simp [Addition.perform, ObjectTree.addCatalog, tree, namedTree, Addition.showsCatalog,
      Addition.schemaName?, Addition.columnsOf, Addition.keysOf, node]
  | schema name =>
    rw [tree_concat fun _ => rfl, Addition.perform, tree, addSchema_namedTree tables_of_not_mem]
    simp [Addition.showsCatalog, Addition.schemaName?, Addition.columnsOf, Addition.keysOf]
    rfl
  | table entry => exact addTable_tree h entry
  | columns entries => exact addColumns_tree h entries
  | keys entries => exact addKeys_tree h entries

theorem foldl_perform (h : Additions) : h.foldl Addition.perform {} = h.tree := by
  -- from the right, as the tree of a sequence says what one more addition makes of it
  induction h using List.reverseRecOn with
  | nil => rfl
  | append_singleton h a ih =>
    rw [List.foldl_append, ih, List.foldl_cons, List.foldl_nil, perform_tree]

end Additions

end KeyspaceLink
