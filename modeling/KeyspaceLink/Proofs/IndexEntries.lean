import KeyspaceLink.Catalog.Listing
import KeyspaceLink.Proofs.ClusterCalls

/-! Entries of indexes. The rows of the catalog come apart into columns and are put together again,
which loses nothing an entry is made of; every key of an index has one entry, and an index without
keys one on the identifier. -/

namespace KeyspaceLink

open Plan

def indexKeys (v : Json) : List Json := ((v.get? "index_key").bind Json.list?).getD []

/-- The text of a key: a field, part after part between backquotes, and perhaps the word for
descending order. -/
def keyText (parts : List String) (descending : Bool) : String :=
  ".".intercalate (parts.map fun part => "\x60" ++ part ++ "\x60") ++
    (if descending then " DESC" else "")

def SaysPrimary (v : Json) : Prop :=
  v.get? "is_primary" = some (.bool true) ∨
    ∃ s, v.get? "is_primary" = some (.text s) ∧ lower s = "true"

section Keys

def quotedParts (parts : List String) : List Char :=
  ['.'].intercalate (parts.map fun part => '\x60' :: (part.toList ++ ['\x60']))

theorem quotedParts_cons_cons (part next : String) (parts : List String) :
    quotedParts (part :: next :: parts) =
      '\x60' :: (part.toList ++ ['\x60', '.'] ++ quotedParts (next :: parts)) := by
  simp [quotedParts, List.intercalate_cons_cons]

theorem toList_keyText (parts : List String) (descending : Bool) :
    (keyText parts descending).toList =
      quotedParts parts ++ (if descending then [' ', 'D', 'E', 'S', 'C'] else []) := by
  rw [keyText, String.toList_append, String.toList_intercalate, List.map_map, quotedParts]
  congr 1
  · congr 1
    refine List.map_congr_left fun part _ => ?_
    simp
  · cases descending <;> rfl

theorem exists_quotedParts {parts : List String} (h : parts ≠ []) :
    ∃ r, quotedParts parts = '\x60' :: (r ++ ['\x60']) := by
  induction parts with
  | nil => exact absurd rfl h
  | cons part parts ih =>
    cases parts with
    | nil => exact ⟨part.toList, by simp [quotedParts]⟩
    | cons next parts =>
      obtain ⟨r, hr⟩ := ih (List.cons_ne_nil next parts)
      exact ⟨part.toList ++ ['\x60', '.', '\x60'] ++ r, by simp [quotedParts_cons_cons, hr]⟩

theorem trimmed_quotedParts (parts : List String) : Trimmed (quotedParts parts) := by
  by_cases h : parts = []
  · subst h
    exact ⟨by simp [quotedParts], by simp [quotedParts]⟩
  · obtain ⟨r, hr⟩ := exists_quotedParts h
    have hmark : isBlank '\x60' = false := by decide
    rw [hr]
    refine ⟨by simp [hmark], ?_⟩
    rw [← List.cons_append, List.getLast?_concat]
    simp [hmark]

theorem dropEnding?_quotedParts (parts : List String) :
    dropEnding? ['D', 'E', 'S', 'C'] (quotedParts parts) = none := by
  rw [Option.eq_none_iff_forall_ne_some]
  intro inner hinner
  have hwhole := dropEnding?_eq_some_iff.mp hinner
  -- a field ends with a backquote
  have hlast : (quotedParts parts).getLast? = some 'C' := by rw [hwhole]; simp
  by_cases h : parts = []
  · subst h
    simp [quotedParts] at hlast
  · obtain ⟨r, hr⟩ := exists_quotedParts h
    rw [hr, ← List.cons_append, List.getLast?_concat] at hlast
    exact absurd (Option.some.inj hlast) (by decide)

/-- Taking away a pair of backquotes first makes no difference to taking them all away. -/
theorem filter_withoutBackquotes (s : String) :
    (withoutBackquotes s).toList.filter (· != '\x60') = s.toList.filter (· != '\x60') := by
  unfold withoutBackquotes
  split
  · next c r hs =>
    split
    · next inner hinner =>
      rw [hs, dropEnding?_eq_some_iff.mp hinner]
      simp
    · rfl
  · rfl

theorem filter_quotedParts {parts : List String} (h : ∀ part ∈ parts, '\x60' ∉ part.toList) :
    (quotedParts parts).filter (· != '\x60') = ['.'].intercalate (parts.map String.toList) := by
  have hkept : ∀ part ∈ parts, part.toList.filter (· != '\x60') = part.toList := by
    intro part hpart
    rw [List.filter_eq_self]
    intro c hc
    have hne : c ≠ '\x60' := fun he => h part hpart (he ▸ hc)
    simpa using hne
  induction parts with
  | nil => rfl
  | cons part parts ih =>
    obtain ⟨hpart, hrest⟩ := List.forall_mem_cons.mp hkept
    have hparts := ih (fun p hp => h p (List.mem_cons_of_mem part hp)) hrest
    cases parts with
    | nil => simp [quotedParts, hpart]
    | cons next parts =>
      rw [quotedParts_cons_cons, List.map_cons, List.map_cons, List.intercalate_cons_cons]
      simp [hparts, hpart]

namespace IndexEntry

theorem fieldName_quotedParts {parts : List String} (h : ∀ part ∈ parts, '\x60' ∉ part.toList) :
    fieldName (quotedParts parts) = ".".intercalate parts := by
  rw [fieldName, (trimmed_quotedParts parts).trim_eq, filter_withoutBackquotes,
    String.toList_ofList, filter_quotedParts h]
  apply String.toList_inj.mp
  rw [String.toList_ofList, String.toList_intercalate]
  rfl

theorem readKey_keyText {parts : List String} (h : ∀ part ∈ parts, '\x60' ∉ part.toList)
    (descending : Bool) :
    readKey (keyText parts descending) = (".".intercalate parts, descending) := by
  rw [readKey, toList_keyText]
  cases descending with
  | false =>
    rw [if_neg (by simp), List.append_nil, dropEnding?_quotedParts]
    exact congrArg (·, false) (fieldName_quotedParts h)
  | true =>
    have hending : dropEnding? ['D', 'E', 'S', 'C']
        (quotedParts parts ++ [' ', 'D', 'E', 'S', 'C']) = some (quotedParts parts ++ [' ']) :=
      dropEnding?_eq_some_iff.mpr (by simp)
    have hspace : isBlank ' ' = true := by decide
    have htrim : trim ([] ++ quotedParts parts ++ [' ']) = quotedParts parts :=
      trim_of_trimmed (by simp) (trimmed_quotedParts parts) (by simp [hspace])
    rw [List.nil_append] at htrim
    rw [if_pos rfl, hending]
    simp only [htrim]
    exact congrArg (·, true) (fieldName_quotedParts h)

end IndexEntry

end Keys

namespace IndexEntry

/-- What an entry tells that is the same for all keys of an index. -/
structure TellsOf (v : Json) (e : IndexEntry) : Prop where
  schema : e.schema = (v.get? "namespace_id").bind Json.text?
  table : e.table = (v.get? "keyspace_id").bind Json.text?
  index : e.index = (v.get? "name").bind Json.text?
  unique : e.nonUnique = false ↔ SaysPrimary v
  condition : e.condition = (v.get? "condition").bind Json.text?

/-- The entries of an index, one for each key. -/
structure Lists (v : Json) (entries : List IndexEntry) : Prop where
  tells : ∀ e ∈ entries, e.TellsOf v
  positions : entries.map position = List.range' 1 (max 1 (indexKeys v).length)
  identifier : indexKeys v = [] → entries.map (fun e => (e.column, e.direction)) = [("id", "A")]
  keys : ∀ (i : Nat) (parts : List String) (descending : Bool),
    (indexKeys v)[i]? = some (.text (keyText parts descending)) →
    (∀ part ∈ parts, '\x60' ∉ part.toList) →
    ∃ e, entries[i]? = some e ∧ e.column = ".".intercalate parts ∧
      e.direction = if descending then "D" else "A"

/-- The text of a key; one that is no text is shown as JSON. -/
def shownKey : Json → String
  | .text s => s
  | k => k.print

section Expansion

variable {v : Json}

theorem isPrimary_iff (v : Json) : isPrimary v = true ↔ SaysPrimary v := by
  rw [isPrimary, SaysPrimary]
  cases hmember : v.get? "is_primary" with
  | none => simp
  | some w => cases w <;> simp

theorem keyTexts_eq (v : Json) : keyTexts v = (indexKeys v).map shownKey := by
  rw [keyTexts, indexKeys]
  cases hmember : v.get? "index_key" with
  | none => rfl
  | some w =>
    cases w with
    | list keys =>
      refine List.map_congr_left fun k _ => ?_
      cases k <;> rfl
    | _ => rfl

theorem tellsOf_ofKey (v : Json) (key : String) (position : Nat) :
    (ofKey v key position).TellsOf v where
  schema := rfl
  table := rfl
  index := rfl
  unique := by rw [ofKey, Bool.not_eq_false', isPrimary_iff]
  condition := rfl

theorem expand_of_no_keys (h : indexKeys v = []) : expand v = [ofKey v "id" 1] := by
  rw [expand, keyTexts_eq, h, List.map_nil]

theorem expand_of_keys (h : indexKeys v ≠ []) : expand v =
    (((indexKeys v).map shownKey).zipIdx 1).map fun p => ofKey v p.1 p.2 := by
  rw [expand, keyTexts_eq]
  cases hkeys : indexKeys v with
  | nil => exact absurd hkeys h
  | cons k keys => rfl

theorem direction_ofKey (v : Json) (key : String) (position : Nat) :
    (ofKey v key position).direction = if (readKey key).2 then "D" else "A" := rfl

theorem lists_expand (v : Json) : Lists v (expand v) := by
  by_cases hkeys : indexKeys v = []
  · rw [expand_of_no_keys hkeys]
    refine ⟨fun e he => ?_, ?_, fun _ => ?_, fun i parts descending hkey => ?_⟩
    · rw [List.mem_singleton.mp he]
      exact tellsOf_ofKey v "id" 1
    · rw [hkeys]
      rfl
    · have hid : readKey "id" = ("id", false) := by decide +kernel
      rw [List.map_singleton, direction_ofKey, ofKey, hid]
      rfl
    · rw [hkeys] at hkey
      cases hkey
  · have hlength : 0 < (indexKeys v).length := List.length_pos_iff.mpr hkeys
    rw [expand_of_keys hkeys]
    refine ⟨fun e he => ?_, ?_, fun hnone => absurd hnone hkeys,
      fun i parts descending hkey hparts => ?_⟩
    · obtain ⟨p, -, rfl⟩ := List.mem_map.mp he
      exact tellsOf_ofKey v p.1 p.2
    · have hpositions : (position ∘ fun p : String × Nat => ofKey v p.1 p.2) = Prod.snd := rfl
      rw [List.map_map, hpositions, List.zipIdx_map_snd, List.length_map, Nat.max_eq_right hlength]
    · refine ⟨ofKey v (keyText parts descending) (1 + i), ?_, ?_, ?_⟩
      · simp [hkey, shownKey]
      · exact congrArg Prod.fst (readKey_keyText hparts descending)
      · rw [direction_ofKey, readKey_keyText hparts]

end Expansion

section Rows

theorem lookup_map_self {names : List String} {name : String} (h : name ∈ names)
    (f : String → Json) : (names.zip (names.map f)).lookup name = some (f name) := by
  induction names with
  | nil => cases h
  | cons first names ih =>
    rw [List.map_cons, List.zip_cons_cons, List.lookup_cons]
    by_cases hfirst : name = first
    · subst hfirst
      simp
    · have hrest := ih ((List.mem_cons.mp h).resolve_left hfirst)
      have hne : (name == first) = false := by simpa using hfirst
      simp only [hne, hrest]

/-- A row as the columns of the catalog give it back. -/
def regained (v : Json) : Json := ofRow (members.map fun c => (v.get? c.name).getD .null)

theorem get?_regained (v : Json) {name : String} (h : name ∈ members.map Column.name) :
    (regained v).get? name = some ((v.get? name).getD .null) := by
  have hrow : (members.map fun c => (v.get? c.name).getD .null) =
      (members.map Column.name).map fun n => (v.get? n).getD .null := by
    rw [List.map_map]
    rfl
  rw [regained, ofRow, hrow]
  exact lookup_map_self h fun n => (v.get? n).getD .null

theorem text?_regained (v : Json) {name : String} (h : name ∈ members.map Column.name) :
    ((regained v).get? name).bind Json.text? = (v.get? name).bind Json.text? := by
  rw [get?_regained v h]
  cases v.get? name <;> rfl

theorem indexKeys_regained (v : Json) : indexKeys (regained v) = indexKeys v := by
  rw [indexKeys, indexKeys, get?_regained v (by decide)]
  cases v.get? "index_key" <;> rfl

theorem isPrimary_regained (v : Json) : isPrimary (regained v) = isPrimary v := by
  rw [isPrimary, isPrimary, get?_regained v (by decide)]
  cases v.get? "is_primary" <;> rfl

theorem expand_regained (v : Json) : expand (regained v) = expand v := by
  have hentry : ∀ key position, ofKey (regained v) key position = ofKey v key position := by
    intro key position
    rw [ofKey, ofKey, isPrimary_regained]
    simp only [text?_regained v (by decide : "namespace_id" ∈ members.map Column.name),
      text?_regained v (by decide : "keyspace_id" ∈ members.map Column.name),
      text?_regained v (by decide : "name" ∈ members.map Column.name),
      text?_regained v (by decide : "condition" ∈ members.map Column.name)]
  rw [expand, expand, keyTexts_eq, keyTexts_eq, indexKeys_regained]
  simp only [hentry]

end Rows

end IndexEntry

namespace Session

variable {s : Session}

theorem allRows_ofObjects (rows : List Json) :
    (Cursor.ofObjects IndexEntry.members rows).allRows.flatMap
      (fun row => IndexEntry.expand (IndexEntry.ofRow row)) = rows.flatMap IndexEntry.expand := by
  have hall : (Cursor.ofObjects IndexEntry.members rows).allRows =
      rows.map fun v => IndexEntry.members.map fun c => (v.get? c.name).getD .null := rfl
  rw [hall, List.flatMap_map]
  congr 1
  funext v
  exact IndexEntry.expand_regained v

theorem executeCatalog_of_open (hopen : s.closed = false) (sql : String) (columns : List Column) :
    s.executeCatalog sql columns =
      (ClusterPlan.query sql (s.queryOptions true)).bind fun reply =>
        .done (.ofObjects columns reply.rows) := by
  rw [executeCatalog, query_of_open hopen]
  rfl

/-- An open session asks for indexes with one query, and lists the entries of each row of the
reply in the order of the rows; a row has an entry for each key, or else one. -/
theorem entries_of_index_rows (hopen : s.closed = false) (schema table : Option String)
    (unique : Bool) :
    (∀ talk outcome, Conversation (s.listIndexes schema table unique) talk outcome ↔
      ∃ answer, talk = [.answered (.query
          ({ schema, table, unique } : CatalogFilter).indexesQuery (s.queryOptions true)) answer] ∧
        outcome = answer.map fun reply => reply.rows.flatMap IndexEntry.expand) ∧
    ∀ v, IndexEntry.Lists v (IndexEntry.expand v) := by
  refine ⟨fun talk outcome => ?_, IndexEntry.lists_expand⟩
  have hplan : s.listIndexes schema table unique =
      (ClusterPlan.query ({ schema, table, unique } : CatalogFilter).indexesQuery
        (s.queryOptions true)).bind fun reply =>
          Plan.ofExcept (.ok (reply.rows.flatMap IndexEntry.expand)) := by
    rw [listIndexes, executeCatalog_of_open hopen, bind_eq, Plan.bind_assoc]
    congr 1
    funext reply
    exact congrArg Plan.done (allRows_ofObjects reply.rows)
  rw [hplan, conversation_bind_ofExcept_iff]
  simp only [conversation_query_iff]
  rfl

/-- An index on two fields, one of them in descending order and one that ends in the word for it,
a row that is no object, and a primary index without keys. -/
theorem entries_of_three_rows :
    let s : Session := { parameters := .resolve "adbc:couchbase:h" ['h'] [] none none [] }
    let rows : List Json :=
      [.object [("index_key", .list [.text "\x60a\x60.\x60b c\x60 DESC", .text "\x60xDESC\x60"]),
          ("name", .text "i"), ("keyspace_id", .text "k"), ("condition", .null)],
        .text "lost",
        .object [("is_primary", .text "TRUE"), ("name", .text "#primary"), ("index_key", .list [])]]
    let entries : List IndexEntry :=
      [⟨none, some "k", true, some "i", 1, "a.b c", true, none⟩,
        ⟨none, some "k", true, some "i", 2, "xDESC", false, none⟩,
        ⟨none, none, true, none, 1, "id", false, none⟩,
        ⟨none, none, false, some "#primary", 1, "id", false, none⟩]
    s.closed = false ∧ ∀ outcome, Conversation (s.listIndexes none (some "k") false)
        [.answered (.query ({ table := some "k" } : CatalogFilter).indexesQuery
          (s.queryOptions true)) (.ok ⟨rows, none⟩)] outcome ↔ outcome = .ok entries := by
  intro s rows entries
  have hopen : s.closed = false := rfl
  have hentries : rows.flatMap IndexEntry.expand = entries := by decide +kernel
  refine ⟨hopen, fun outcome => ?_⟩
  rw [(entries_of_index_rows hopen none (some "k") false).1]
  constructor
  · rintro ⟨answer, htalk, rfl⟩
    cases htalk
    exact congrArg Except.ok hentries
  · rintro rfl
    exact ⟨_, rfl, congrArg Except.ok hentries.symm⟩

end Session

end KeyspaceLink
