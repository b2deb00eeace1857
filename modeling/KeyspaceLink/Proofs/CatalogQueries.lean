import KeyspaceLink.Catalog.Query
import KeyspaceLink.Proofs.QuotedText

/-! Patterns in the queries of the catalog. Whatever a pattern holds, it stays within a literal
of its own, and around the literals a query is the same for all patterns. -/

namespace KeyspaceLink

inductive CatalogQuery
  | tables
  | schemas
  | keys
  | indexes

namespace CatalogQuery

def text (f : CatalogFilter) : CatalogQuery → String
  | tables => f.tablesQuery
  | schemas => f.schemasQuery
  | keys => f.keysQuery
  | indexes => f.indexesQuery

/-- The literals that a query has of its own. -/
def ownLiterals : CatalogQuery → List String
  | tables => ["TABLE"]
  | schemas => []
  | keys => ["id"]
  | indexes => []

/-- The patterns that a query uses, in the order of its conditions. -/
def patterns (f : CatalogFilter) : CatalogQuery → List String
  | tables => f.schema.toList ++ f.table.toList
  | schemas => f.schema.toList
  | keys => f.schema.toList ++ f.table.toList
  | indexes => f.table.toList ++ f.schema.toList

end CatalogQuery

/-- The text has these lexemes, and it ends a literal that it stands after. -/
def Reads (s : List Char) (a : List Lexeme) : Prop :=
  lexemes? '\'' s = some a ∧ s.head? ≠ some '\''

section Texts

variable {s t : List Char} {a b : List Lexeme}

theorem reads_of_not_mem (h : '\'' ∉ s) : Reads s (s.map .char) :=
  ⟨lexemes?_of_not_mem h, fun hs => h (List.mem_of_head? hs)⟩

theorem Reads.append (ha : Reads s a) (hb : Reads t b) : Reads (s ++ t) (a ++ b) := by
  refine ⟨lexemesFrom_append ha.1 hb.1 hb.2, ?_⟩
  cases s with
  | nil => exact hb.2
  | cons c s => exact ha.2

theorem toList_quoteLiteral (p : String) :
    (quoteLiteral p).toList = (Lexeme.quoted p.toList).text '\'' :=
  String.toList_ofList

theorem reads_literal_after (h : '\'' ∉ s) (hne : s ≠ []) (p : String) :
    Reads (s ++ (quoteLiteral p).toList) (s.map .char ++ [.quoted p.toList]) := by
  constructor
  · rw [toList_quoteLiteral, lexemes?_append_of_not_mem h, lexemes?_quoted]
    rfl
  · rw [List.head?_append_of_ne_nil _ hne]
    exact fun hs => h (List.mem_of_head? hs)

theorem Reads.intercalate {texts : List (List Char)} {parts : List (List Lexeme)} (hs : Reads s a)
    (h : List.Forall₂ Reads texts parts) :
    Reads (List.intercalate s texts) (List.intercalate a parts) := by
  induction h with
  | nil => exact ⟨rfl, nofun⟩
  | cons hhead htail ih =>
    cases htail with
    | nil =>
      rw [List.intercalate_singleton, List.intercalate_singleton]
      exact hhead
    | cons _ _ =>
      rw [List.intercalate_cons_cons, List.intercalate_cons_cons]
      exact (hhead.append hs).append ih

end Texts

namespace CatalogQuery

def conditionLexemes (column : String) (pattern : Option String) : List (List Lexeme) :=
  pattern.toList.map fun p => (column ++ " LIKE ").toList.map .char ++ [.quoted p.toList]

def whereLexemes (conditions : List (List Lexeme)) : List Lexeme :=
  if conditions.isEmpty then []
  else " WHERE ".toList.map .char ++ List.intercalate (" AND ".toList.map .char) conditions

def primaryLexemes : List Lexeme := "is_primary = true".toList.map .char

def conditions (f : CatalogFilter) : CatalogQuery → List (List Lexeme)
  | tables => conditionLexemes "namespace_id" f.schema ++ conditionLexemes "name" f.table
  | schemas => conditionLexemes "name" f.schema
  | keys => primaryLexemes :: (conditionLexemes "namespace_id" f.schema ++
      conditionLexemes "keyspace_id" f.table)
  | indexes => conditionLexemes "keyspace_id" f.table ++ conditionLexemes "namespace_id" f.schema ++
      if f.unique then [primaryLexemes] else []

section Reading

theorem said_chars (s : List Char) : (s.map Lexeme.char).filterMap Lexeme.said? = [] := by
  rw [List.filterMap_map]
  exact List.filterMap_none _

theorem said_whereLexemes (conditions : List (List Lexeme)) :
    (whereLexemes conditions).filterMap Lexeme.said? =
      conditions.flatMap (List.filterMap Lexeme.said?) := by
  rw [whereLexemes]
  split
  · next h => simp [List.isEmpty_iff.mp h]
  · rw [List.filterMap_append, said_chars, List.nil_append]
    induction conditions with
    | nil => rfl
    | cons c rest ih =>
      cases rest with
      | nil => simp
      | cons d rest =>
        rw [List.intercalate_cons_cons, List.filterMap_append, List.filterMap_append, said_chars,
          List.append_nil, ih (by simp)]
        exact List.flatMap_cons.symm

theorem reads_condition {column : String} (h : '\'' ∉ column.toList) (pattern : Option String) :
    List.Forall₂ Reads ((CatalogFilter.condition column pattern).map String.toList)
      (conditionLexemes column pattern) := by
  cases pattern with
  | none => exact .nil
  | some p =>
    refine .cons ?_ .nil
    have hplain : '\'' ∉ (column ++ " LIKE ").toList := by simp [h]
    rw [String.toList_append]
    exact reads_literal_after hplain (by simp) p

theorem reads_whereAll {conditions : List String} {parts : List (List Lexeme)}
    (h : List.Forall₂ Reads (conditions.map String.toList) parts) :
    Reads (CatalogFilter.whereAll conditions).toList (whereLexemes parts) := by
  have hempty : conditions.isEmpty = parts.isEmpty := by
    cases conditions <;> cases h <;> rfl
  rw [CatalogFilter.whereAll, whereLexemes, hempty]
  split
  · exact ⟨rfl, nofun⟩
  · rw [String.toList_append, String.toList_intercalate]
    exact (reads_of_not_mem (by decide)).append (.intercalate (reads_of_not_mem (by decide)) h)

theorem toList_append_of {a b : String} {l m : List Char} (ha : a.toList = l)
    (hb : b.toList = m) : (a ++ b).toList = l ++ m := by
  rw [String.toList_append, ha, hb]

/-- What a query is made of around its conditions is the same for all filters. -/
theorem exists_reads_query {start order : String} {s o : List Char} {own : List (List Char)}
    {text : CatalogFilter → String} {conditions : CatalogFilter → List String}
    {parts : CatalogFilter → List (List Lexeme)}
    (htext : ∀ f, text f = start ++ CatalogFilter.whereAll (conditions f) ++ order)
    (hs : start.toList = s) (ho : order.toList = o) (hstart : s.head? ≠ some '\'')
    (hown : (lexemes? '\'' s).map (List.filterMap Lexeme.said?) = some own) (horder : '\'' ∉ o)
    (hparts : ∀ f, List.Forall₂ Reads ((conditions f).map String.toList) (parts f)) :
    ∃ a b : List Lexeme, a.filterMap Lexeme.said? = own ∧ b.filterMap Lexeme.said? = [] ∧
      ∀ f, Reads (text f).toList (a ++ (whereLexemes (parts f) ++ b)) := by
  obtain ⟨a, ha, hsaid⟩ := Option.map_eq_some_iff.mp hown
  have hreads : Reads s a := ⟨ha, hstart⟩
  refine ⟨a, o.map .char, hsaid, said_chars o, fun f => ?_⟩
  rw [htext, String.toList_append, String.toList_append, hs, ho, List.append_assoc]
  exact hreads.append ((reads_whereAll (hparts f)).append (reads_of_not_mem horder))

theorem exists_reads_text (q : CatalogQuery) : ∃ a b : List Lexeme,
    a.filterMap Lexeme.said? = q.ownLiterals.map String.toList ∧ b.filterMap Lexeme.said? = [] ∧
    ∀ f, Reads (q.text f).toList (a ++ (whereLexemes (q.conditions f) ++ b)) := by
  have hprimary : Reads "is_primary = true".toList primaryLexemes := reads_of_not_mem (by decide)
  have hschema : ∀ f : CatalogFilter, List.Forall₂ Reads
      ((CatalogFilter.condition "namespace_id" f.schema).map String.toList)
      (conditionLexemes "namespace_id" f.schema) := fun f => reads_condition (by decide) _
  have htable : ∀ f : CatalogFilter, List.Forall₂ Reads
      ((CatalogFilter.condition "keyspace_id" f.table).map String.toList)
      (conditionLexemes "keyspace_id" f.table) := fun f => reads_condition (by decide) _
  have hname : ∀ pattern : Option String, List.Forall₂ Reads
      ((CatalogFilter.condition "name" pattern).map String.toList)
      (conditionLexemes "name" pattern) := reads_condition (by decide)
  -- The kernel is quick on lists of characters and slow on long strings.
  cases q with
  | tables =>
    refine exists_reads_query (fun f => rfl)
      (toList_append_of (toList_append_of (toList_append_of String.toList_ofList
        String.toList_ofList) String.toList_ofList) String.toList_ofList)
      String.toList_ofList (by decide +kernel) (by decide +kernel) (by decide +kernel) fun f => ?_
    rw [List.map_append]
    exact List.rel_append (hschema f) (hname f.table)
  | schemas =>
    exact exists_reads_query (fun f => rfl) String.toList_ofList String.toList_ofList
      (by decide +kernel) (by decide +kernel) (by decide +kernel) fun f => hname f.schema
  | keys =>
    refine exists_reads_query (fun f => rfl)
      (toList_append_of (toList_append_of String.toList_ofList String.toList_ofList)
        String.toList_ofList)
      String.toList_ofList (by decide +kernel) (by decide +kernel) (by decide +kernel) fun f => ?_
    rw [List.cons_append, List.map_cons, List.map_append]
    exact .cons hprimary (List.rel_append (hschema f) (htable f))
  | indexes =>
    refine exists_reads_query (fun f => rfl)
      (toList_append_of String.toList_ofList String.toList_ofList)
      String.toList_ofList (by decide +kernel) (by decide +kernel) (by decide +kernel) fun f => ?_
    rw [List.map_append, List.map_append]
    refine List.rel_append (List.rel_append (htable f) (hschema f)) ?_
    split
    · exact .cons hprimary .nil
    · exact .nil

theorem said_conditions (q : CatalogQuery) (f : CatalogFilter) :
    (q.conditions f).flatMap (List.filterMap Lexeme.said?) =
      (q.patterns f).map String.toList := by
  have hcondition : ∀ (column : String) (pattern : Option String),
      (conditionLexemes column pattern).flatMap (List.filterMap Lexeme.said?) =
        pattern.toList.map String.toList := by
    intro column pattern
    cases pattern with
    | none => rfl
    | some p =>
      simp only [conditionLexemes, Option.toList_some, List.map_cons, List.map_nil,
        List.flatMap_cons, List.flatMap_nil, List.append_nil, List.filterMap_append, said_chars,
        List.nil_append]
      rfl
  have hprimary : primaryLexemes.filterMap Lexeme.said? = [] := said_chars _
  have hunique : (if f.unique then [primaryLexemes] else []).flatMap
      (List.filterMap Lexeme.said?) = [] := by
    split <;> simp [hprimary]
  cases q with
  | tables => simp only [conditions, patterns, List.flatMap_append, hcondition, List.map_append]
  | schemas => exact hcondition "name" f.schema
  | keys =>
    simp only [conditions, patterns, List.flatMap_cons, List.flatMap_append, hcondition, hprimary,
      List.nil_append, List.map_append]
  | indexes =>
    simp only [conditions, patterns, List.flatMap_append, hcondition, hunique, List.append_nil,
      List.map_append]

/-- A filter that has patterns where they are wanted. -/
def someFilter (schema table unique : Bool) : CatalogFilter :=
  ⟨if schema then some "" else none, if table then some "" else none, unique⟩

theorem outline_conditions (q : CatalogQuery) (f : CatalogFilter) :
    (whereLexemes (q.conditions f)).map Lexeme.char? =
      (whereLexemes (q.conditions (someFilter f.schema.isSome f.table.isSome f.unique))).map
        Lexeme.char? := by
  rcases f with ⟨_ | schema, _ | table, _ | _⟩ <;> cases q <;> rfl

/-- Each pattern that is given is said by a literal of its own, in the order of the conditions,
and the rest of the query depends only on which patterns are given and on the flag. -/
theorem patterns_stay_in_their_literals (q : CatalogQuery) :
    ∃ outline : Bool → Bool → Bool → List (Option Char), ∀ f : CatalogFilter,
      ∃ parts, lexemes? '\'' (q.text f).toList = some parts ∧
        parts.filterMap Lexeme.said? = (q.ownLiterals ++ q.patterns f).map String.toList ∧
        parts.map Lexeme.char? = outline f.schema.isSome f.table.isSome f.unique := by
  obtain ⟨a, b, ha, hb, hread⟩ := exists_reads_text q
  refine ⟨fun schema table unique => a.map Lexeme.char? ++
    ((whereLexemes (q.conditions (someFilter schema table unique))).map Lexeme.char? ++
      b.map Lexeme.char?), fun f => ⟨_, (hread f).1, ?_, ?_⟩⟩
  · rw [List.filterMap_append, List.filterMap_append, ha, hb, said_whereLexemes, said_conditions,
      List.append_nil, List.map_append]
  · rw [List.map_append, List.map_append, outline_conditions]

end Reading

end CatalogQuery

end KeyspaceLink
