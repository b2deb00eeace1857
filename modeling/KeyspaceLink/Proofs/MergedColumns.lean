import KeyspaceLink.Proofs.ClusterCalls
import KeyspaceLink.Proofs.FieldNames
import KeyspaceLink.Proofs.ObjectAdditions
import KeyspaceLink.Proofs.Outcomes
import KeyspaceLink.Sample.Sampler

/-! What a sample makes of documents. The fields of nested objects are met in some order, each
at its path, and every path gets one column, at the place where it is met first. -/

namespace KeyspaceLink

open Plan

/-- The keys from a document down to a field. -/
abbrev FieldPath := List String

/-- Through nested objects the path leads from the members of one to a value. -/
inductive Leads : List (String × Json) → FieldPath → Json → Prop
  | here {members : List (String × Json)} {key : String} {v : Json} (h : (key, v) ∈ members) :
      Leads members [key] v
  | within {members inner : List (String × Json)} {key : String} {path : FieldPath} {v : Json}
      (h : (key, .object inner) ∈ members) (hrest : Leads inner path v) :
      Leads members (key :: path) v

mutual

def fieldsUnder (above : FieldPath) : Json → List (FieldPath × Json)
  | .object members => fieldsIn above members
  | _ => []

/-- The fields below an object at a path, as they are met: each before the fields within it. -/
def fieldsIn (above : FieldPath) : List (String × Json) → List (FieldPath × Json)
  | [] => []
  | (key, v) :: rest =>
    (above ++ [key], v) :: (fieldsUnder (above ++ [key]) v ++ fieldsIn above rest)

end

def fieldsOf (documents : List Json) : List (FieldPath × Json) :=
  documents.flatMap (fieldsUnder [])

/-- The type of the first value met at the path that is not null. -/
def tagAt (seen : List (FieldPath × Json)) (path : FieldPath) : Tag :=
  (seen.find? fun s => s.1 == path && !s.2.isNull).elim .null fun s => .of s.2

def columnAt (seen : List (FieldPath × Json)) (path : FieldPath) : SampledColumn :=
  ⟨dottedName path, tagAt seen path⟩

def pathsOf (seen : List (FieldPath × Json)) : List FieldPath := (seen.map Prod.fst).eraseDups

/-- The columns have a place for each path among the documents, where it is first met. -/
structure Merges (documents : List Json) (paths : List FieldPath) (columns : List SampledColumn) :
    Prop where
  met : ∀ path v, (path, v) ∈ fieldsOf documents ↔
    ∃ members, .object members ∈ documents ∧ Leads members path v
  reached : ∀ path, path ∈ paths ↔
    ∃ members v, .object members ∈ documents ∧ Leads members path v
  distinct : paths.Nodup
  firstMet : paths = pathsOf (fieldsOf documents)
  parentFirst : ∀ path key, path ≠ [] → path ++ [key] ∈ paths → [path, path ++ [key]].Sublist paths
  described : columns = paths.map (columnAt (fieldsOf documents))
  names : (columns.map SampledColumn.name).Nodup

section Noting

variable {seen : List (FieldPath × Json)} {paths : List FieldPath} {path : FieldPath}

def noteField (columns : List SampledColumn) (s : FieldPath × Json) : List SampledColumn :=
  note (dottedName s.1) (.of s.2) columns

theorem of_eq_null_iff (v : Json) : Tag.of v = .null ↔ v.isNull = true := by
  cases v <;> simp [Tag.of, Json.isNull]

theorem tagAt_of_not_mem (h : path ∉ seen.map Prod.fst) : tagAt seen path = .null := by
  have hnone : seen.find? (fun s => s.1 == path && !s.2.isNull) = none := by
    rw [List.find?_eq_none]
    intro s hs hfound
    simp only [Bool.and_eq_true, beq_iff_eq] at hfound
    exact h (List.mem_map.mpr ⟨s, hs, hfound.1⟩)
  rw [tagAt, hnone]
  rfl

theorem tagAt_concat (s : FieldPath × Json) :
    tagAt (seen ++ [s]) path =
      if path = s.1 ∧ tagAt seen path = .null then .of s.2 else tagAt seen path := by
  cases hfound : seen.find? fun s => s.1 == path && !s.2.isNull with
  | some t =>
    have ht := List.find?_some hfound
    simp only [Bool.and_eq_true, Bool.not_eq_true'] at ht
    have hnull : Tag.of t.2 ≠ .null := by simp [of_eq_null_iff, ht.2]
    simp [tagAt, List.find?_append, hfound, hnull]
  | none =>
    have hbefore : tagAt seen path = .null := by rw [tagAt, hfound]; rfl
    by_cases hs : path = s.1
    · rw [if_pos ⟨hs, hbefore⟩]
      subst hs
      by_cases hnull : s.2.isNull = true
      · simp [tagAt, List.find?_append, hfound, hnull, (of_eq_null_iff s.2).mpr hnull]
      · simp [tagAt, List.find?_append, hfound, hnull]
    · have hne : (s.1 == path) = false := by simpa using Ne.symm hs
      simp [tagAt, List.find?_append, hfound, hs, hne]

/-- A value noted under the name of a path changes the column of that path and no other. -/
theorem note_map {tag tag' : FieldPath → Tag} {t : Tag} (hdistinct : paths.Nodup)
    (hne : ∀ p ∈ paths, p ≠ []) (hpath : path ≠ []) (hother : ∀ p, p ≠ path → tag' p = tag p)
    (hself : tag' path = if tag path = .null then t else tag path)
    (hnew : path ∉ paths → tag path = .null) :
    note (dottedName path) t (paths.map fun p => ⟨dottedName p, tag p⟩) =
      (addNew path paths).map fun p => ⟨dottedName p, tag' p⟩ := by
  induction paths with
  | nil =>
    rw [if_pos (hnew (by simp))] at hself
    simp [note, addNew, hself]
  | cons p paths ih =>
    obtain ⟨hp, hrest⟩ := List.nodup_cons.mp hdistinct
    rw [List.map_cons, note]
    by_cases hsame : p = path
    · subst hsame
      have hkept : paths.map (fun q => (⟨dottedName q, tag q⟩ : SampledColumn)) =
          paths.map fun q => ⟨dottedName q, tag' q⟩ := by
        refine List.map_congr_left fun q hq => ?_
        rw [hother q]
        rintro rfl
        exact hp hq
      have hadd : addNew p (p :: paths) = p :: paths := if_pos List.mem_cons_self
      rw [if_pos (beq_self_eq_true _), hadd, List.map_cons, hkept, hself]
      by_cases hnull : tag p = .null <;> simp [hnull]
    · have hnames : dottedName p ≠ dottedName path := by
        rwa [Ne, dottedName_inj (hne p List.mem_cons_self) hpath]
      have hmem : path ∈ p :: paths ↔ path ∈ paths := by simp [Ne.symm hsame]
      have hadd : addNew path (p :: paths) = p :: addNew path paths := by
        simp only [addNew, hmem]
        split <;> rfl
      rw [if_neg (by simpa using hnames), hadd, List.map_cons, hother p hsame,
        ih hrest (fun q hq => hne q (List.mem_cons_of_mem p hq)) fun h => hnew (hmem.not.mpr h)]

theorem noteField_columns (hne : ∀ s ∈ seen, s.1 ≠ []) {s : FieldPath × Json} (hs : s.1 ≠ []) :
    noteField ((pathsOf seen).map (columnAt seen)) s =
      (pathsOf (seen ++ [s])).map (columnAt (seen ++ [s])) := by
  have hpaths : pathsOf (seen ++ [s]) = addNew s.1 (pathsOf seen) := by
    rw [pathsOf, List.map_append]
    exact eraseDups_concat (seen.map Prod.fst) s.1
  have hmem : ∀ p, p ∈ pathsOf seen ↔ p ∈ seen.map Prod.fst := fun p => List.mem_eraseDups
  rw [hpaths]
  apply note_map (nodup_eraseDups (seen.map Prod.fst))
  · intro p hp
    obtain ⟨t, ht, rfl⟩ := List.mem_map.mp ((hmem p).mp hp)
    exact hne t ht
  · exact hs
  · intro p hp
    rw [tagAt_concat, if_neg fun h => hp h.1]
  · simp [tagAt_concat]
  · intro h
    exact tagAt_of_not_mem ((hmem s.1).not.mp h)

theorem foldl_noteField (hne : ∀ s ∈ seen, s.1 ≠ []) :
    seen.foldl noteField [] = (pathsOf seen).map (columnAt seen) := by
  induction seen using List.reverseRecOn with
  | nil => rfl
  | append_singleton seen s ih =>
    have hseen : ∀ t ∈ seen, t.1 ≠ [] := fun t ht => hne t (List.mem_append_left [s] ht)
    have hs : s.1 ≠ [] := hne s (List.mem_append_right seen List.mem_cons_self)
    rw [List.foldl_concat, ih hseen, noteField_columns hseen hs]

end Noting

section Walk

/-- The name of an object, which the whole document has not. -/
def parentName? (path : FieldPath) : Option String :=
  if path = [] then none else some (dottedName path)

theorem qualify_parentName? (path : FieldPath) (key : String) :
    qualify (parentName? path) key = dottedName (path ++ [key]) := by
  by_cases hpath : path = []
  · subst hpath
    exact String.intercalate_singleton.symm
  · rw [parentName?, if_neg hpath, qualify_dottedName hpath]

theorem collect_eq :
    (∀ (name : String) (v : Json) (columns : List SampledColumn) (path : FieldPath), path ≠ [] →
      name = dottedName path →
      collectValue name v columns = (fieldsUnder path v).foldl noteField columns) ∧
    ∀ (parent : Option String) (fields : List (String × Json)) (columns : List SampledColumn)
      (path : FieldPath), parent = parentName? path →
      collectFields parent fields columns = (fieldsIn path fields).foldl noteField columns := by
  -- a value and the fields of an object, by one induction on the document
  apply collectValue.mutual_induct
  case case1 =>
    intro name members columns ih path hpath hname
    rw [collectValue, fieldsUnder]
    exact ih path (by rw [parentName?, if_neg hpath, hname])
  case case2 =>
    intro v name columns hv path hpath hname
    rw [collectValue, fieldsUnder]
    · rfl
    · exact hv
    · exact hv
  case case3 =>
    intro parent columns path hparent
    rw [collectFields, fieldsIn]
    rfl
  case case4 =>
    intro parent key v rest columns name hvalue hrest path hparent
    have hname : name = dottedName (path ++ [key]) := by
      rw [← qualify_parentName?, ← hparent]
    rw [collectFields, fieldsIn, List.foldl_cons, List.foldl_append, hrest path hparent,
      hvalue (path ++ [key]) (by simp) hname, noteField, ← hname]

theorem collectColumns_eq (documents : List Json) :
    collectColumns documents = (fieldsOf documents).foldl noteField [] := by
  rw [collectColumns, fieldsOf]
  -- for the induction the fold starts from any columns
  generalize ([] : List SampledColumn) = columns
  induction documents generalizing columns with
  | nil => rfl
  | cons d rest ih =>
    rw [List.foldl_cons, List.flatMap_cons, List.foldl_append, ih]
    congr 1
    cases d with
    | object members => exact collect_eq.2 none members columns [] rfl
    | _ => rfl

/-- What is met below an object is what its paths lead to. -/
theorem mem_fields_iff :
    (∀ (above : FieldPath) (v : Json) (path : FieldPath) (w : Json),
      (path, w) ∈ fieldsUnder above v ↔
        ∃ members below, v = .object members ∧ path = above ++ below ∧ Leads members below w) ∧
    ∀ (above : FieldPath) (members : List (String × Json)) (path : FieldPath) (w : Json),
      (path, w) ∈ fieldsIn above members ↔
        ∃ below, path = above ++ below ∧ Leads members below w := by
  apply fieldsUnder.mutual_induct
  case case1 =>
    intro above members ih path w
    rw [fieldsUnder, ih]
    constructor
    · rintro ⟨below, hpath, h⟩
      exact ⟨members, below, rfl, hpath, h⟩
    · rintro ⟨_, below, he, hpath, h⟩
      cases he
      exact ⟨below, hpath, h⟩
  case case2 =>
    intro above v hv path w
    rw [fieldsUnder]
    · constructor
      · intro h
        cases h
      · rintro ⟨members, -, he, -⟩
        exact absurd he (hv members)
    · exact hv
  case case3 =>
    intro above path w
    rw [fieldsIn]
    constructor
    · intro h
      cases h
    · rintro ⟨below, -, h⟩
      cases h with
      | here h => cases h
      | within h _ => cases h
  case case4 =>
    intro above key v rest hunder hrest path w
    rw [fieldsIn, List.mem_cons, List.mem_append, hunder, hrest]
    constructor
    · rintro (h | ⟨inner, below, rfl, rfl, h⟩ | ⟨below, rfl, h⟩)
      · cases h
        exact ⟨[key], rfl, .here List.mem_cons_self⟩
      · exact ⟨key :: below, by simp, .within List.mem_cons_self h⟩
      · cases h with
        | here h => exact ⟨_, rfl, .here (List.mem_cons_of_mem _ h)⟩
        | within h hbelow => exact ⟨_, rfl, .within (List.mem_cons_of_mem _ h) hbelow⟩
    · rintro ⟨below, rfl, h⟩
      cases h with
      | here h =>
        rcases List.mem_cons.mp h with he | h
        · cases he
          exact .inl rfl
        · exact .inr (.inr ⟨_, rfl, .here h⟩)
      | within h hbelow =>
        rcases List.mem_cons.mp h with he | h
        · cases he
          exact .inr (.inl ⟨_, _, rfl, by simp, hbelow⟩)
        · exact .inr (.inr ⟨_, rfl, .within h hbelow⟩)

theorem Leads.ne_nil {members : List (String × Json)} {path : FieldPath} {v : Json}
    (h : Leads members path v) : path ≠ [] := by
  cases h <;> exact List.cons_ne_nil _ _

theorem mem_fieldsOf_iff {documents : List Json} {path : FieldPath} {v : Json} :
    (path, v) ∈ fieldsOf documents ↔
      ∃ members, .object members ∈ documents ∧ Leads members path v := by
  rw [fieldsOf, List.mem_flatMap]
  constructor
  · rintro ⟨d, hd, h⟩
    obtain ⟨members, below, rfl, rfl, h⟩ := (mem_fields_iff.1 [] d path v).mp h
    exact ⟨members, hd, h⟩
  · rintro ⟨members, hd, h⟩
    exact ⟨_, hd, (mem_fields_iff.1 [] _ path v).mpr ⟨members, path, rfl, rfl, h⟩⟩

end Walk

section Parents

variable {above : FieldPath} {first second : List (FieldPath × Json)}

/-- Before a field within an object below `above`, the field that holds the object is met. -/
def ParentsFirst (above : FieldPath) (seen : List (FieldPath × Json)) : Prop :=
  ∀ pre s post, seen = pre ++ s :: post → ∀ path key, s.1 = path ++ [key] →
    path = above ∨ path ∈ pre.map Prod.fst

theorem ParentsFirst.append (h : ParentsFirst above first) (h' : ParentsFirst above second) :
    ParentsFirst above (first ++ second) := by
  intro pre s post hsplit path key hpath
  rcases List.append_eq_append_iff.mp hsplit with ⟨more, rfl, hsecond⟩ | ⟨more, rfl, hmore⟩
  · rcases h' more s post hsecond path key hpath with hroot | hmem
    · exact .inl hroot
    · exact .inr (by rw [List.map_append]; exact List.mem_append_right _ hmem)
  · cases more with
    | nil =>
      rcases h' [] s post (by simpa using hmore.symm) path key hpath with hroot | hmem
      · exact .inl hroot
      · cases hmem
    | cons s' more =>
      obtain ⟨rfl, -⟩ := List.cons.inj hmore
      exact h pre s more rfl path key hpath

theorem ParentsFirst.under {key : String} {v : Json}
    (h : ParentsFirst (above ++ [key]) first) :
    ParentsFirst above ((above ++ [key], v) :: first) := by
  intro pre s post hsplit path key' hpath
  cases pre with
  | nil =>
    obtain ⟨rfl, -⟩ := List.cons.inj hsplit
    exact .inl (List.append_inj' hpath rfl).1.symm
  | cons s' pre =>
    obtain ⟨rfl, hfirst⟩ := List.cons.inj hsplit
    rcases h pre s post hfirst path key' hpath with hroot | hmem
    · exact .inr (hroot ▸ List.mem_cons_self)
    · exact .inr (List.mem_cons_of_mem _ hmem)

theorem parentsFirst_nil : ParentsFirst above [] := by
  intro pre s post hsplit
  simp at hsplit

theorem parentsFirst_fields :
    (∀ (above : FieldPath) (v : Json), ParentsFirst above (fieldsUnder above v)) ∧
    ∀ (above : FieldPath) (members : List (String × Json)),
      ParentsFirst above (fieldsIn above members) := by
  apply fieldsUnder.mutual_induct
  case case1 =>
    intro above members ih
    rw [fieldsUnder]
    exact ih
  case case2 =>
    intro above v hv
    rw [fieldsUnder]
    · exact parentsFirst_nil
    · exact hv
  case case3 =>
    intro above
    rw [fieldsIn]
    exact parentsFirst_nil
  case case4 =>
    intro above key v rest hunder hrest
    rw [fieldsIn]
    exact ParentsFirst.append hunder.under hrest

theorem parentsFirst_fieldsOf (documents : List Json) : ParentsFirst [] (fieldsOf documents) := by
  induction documents with
  | nil => exact parentsFirst_nil
  | cons d rest ih =>
    rw [fieldsOf, List.flatMap_cons]
    exact (parentsFirst_fields.1 [] d).append ih

/-- What stands before every occurrence of another stands before it among the first ones. -/
theorem pair_sublist_eraseDups {α : Type} [BEq α] [LawfulBEq α] {l : List α} {a b : α} (hb : b ∈ l)
    (h : ∀ pre post, l = pre ++ b :: post → a ∈ pre) : [a, b].Sublist l.eraseDups := by
  obtain ⟨pre, post, hsplit, hfirst⟩ := List.eq_append_cons_of_mem hb
  have hlater : b ∈ ((b :: post).removeAll pre).eraseDups := by
    simp [List.removeAll, hfirst]
  rw [hsplit, List.eraseDups_append]
  exact (List.singleton_sublist.mpr (List.mem_eraseDups.mpr (h pre post hsplit))).append
    (List.singleton_sublist.mpr hlater)

end Parents

theorem merges_collectColumns (documents : List Json) :
    Merges documents (pathsOf (fieldsOf documents)) (collectColumns documents) := by
  have hmem : ∀ path, path ∈ pathsOf (fieldsOf documents) ↔
      ∃ members v, .object members ∈ documents ∧ Leads members path v := by
    intro path
    have hfirst : path ∈ pathsOf (fieldsOf documents) ↔ path ∈ (fieldsOf documents).map Prod.fst :=
      List.mem_eraseDups
    rw [hfirst, List.mem_map]
    constructor
    · rintro ⟨⟨_, v⟩, hv, rfl⟩
      obtain ⟨members, hm⟩ := mem_fieldsOf_iff.mp hv
      exact ⟨members, v, hm⟩
    · rintro ⟨members, v, hm⟩
      exact ⟨(path, v), mem_fieldsOf_iff.mpr ⟨members, hm⟩, rfl⟩
  have hne : ∀ path ∈ pathsOf (fieldsOf documents), path ≠ [] := by
    intro path hpath
    obtain ⟨members, v, -, h⟩ := (hmem path).mp hpath
    exact h.ne_nil
  have hdescribed : collectColumns documents =
      (pathsOf (fieldsOf documents)).map (columnAt (fieldsOf documents)) := by
    rw [collectColumns_eq]
    refine foldl_noteField fun s hs => ?_
    obtain ⟨members, -, h⟩ := mem_fieldsOf_iff.mp hs
    exact h.ne_nil
  have hdistinct : (pathsOf (fieldsOf documents)).Nodup := nodup_eraseDups _
  refine ⟨fun path v => mem_fieldsOf_iff, hmem, hdistinct, rfl, fun path key hpath hlonger => ?_,
    hdescribed, ?_⟩
  · refine pair_sublist_eraseDups (List.mem_eraseDups.mp hlonger) fun pre post hsplit => ?_
    -- the split of the paths is one of the fields
    obtain ⟨seen, _, hseen, rfl, hrest⟩ := List.map_eq_append_iff.mp hsplit
    obtain ⟨s, later, rfl, hs, -⟩ := List.map_eq_cons_iff.mp hrest
    exact (parentsFirst_fieldsOf documents seen s later hseen path key hs).resolve_left hpath
  · rw [hdescribed, List.map_map]
    refine hdistinct.map_on fun path hpath path' hpath' hname => ?_
    exact (dottedName_inj (hne path hpath) (hne path' hpath')).mp hname

def DistinctColumns (columns : List SampledColumn) : Prop :=
  (columns.map SampledColumn.name).Nodup

theorem Session.yields_sample (s : Session) (table : Keyspace) :
    (s.sample table).Yields DistinctColumns := by
  refine .last _ fun reply => ?_
  split
  · split
    · exact .done List.nodup_nil
    · exact .fail _
  · exact .done (merges_collectColumns _).names

section Statements

variable {c : Char} {r : List Char}

theorem head_normalize (h : isBlank c = false) (hc : c ≠ ';') :
    (normalize (c :: r)).head? = some c := by
  have hstart : trim (c :: r) = c :: trimEnd r := by
    rw [trim, trimStart, List.dropWhile_cons_of_neg (by simp [h]), trimEnd_cons h]
  rw [normalize, hstart]
  cases hending : dropEnding? [';'] (c :: trimEnd r) with
  | none => rfl
  | some inner =>
    have hwhole := dropEnding?_eq_some_iff.mp hending
    cases inner with
    | nil => exact absurd (List.cons.inj hwhole).1 hc
    | cons d inner =>
      obtain ⟨rfl, -⟩ := List.cons.inj hwhole
      show (trimEnd (c :: inner)).head? = some c
      rw [trimEnd_cons h]
      rfl

theorem not_infers_samplingStatement (table : Keyspace) (size : Nat) :
    infers (normalize (Session.samplingStatement table size).toList) = false := by
  obtain ⟨more, hmore⟩ :
      ∃ more, Session.samplingStatement table size = "SELECT t.* FROM " ++ more := by
    unfold Session.samplingStatement
    simp only [String.append_assoc]
    exact ⟨_, rfl⟩
  have hfirst : "SELECT t.* FROM ".toList.head? = some 'S' := by decide +kernel
  obtain ⟨r, hr⟩ := List.head?_eq_some_iff.mp hfirst
  have hhead : (normalize (Session.samplingStatement table size).toList).head? = some 'S' := by
    rw [hmore, String.toList_append, hr]
    exact head_normalize (by decide) (by decide)
  obtain ⟨rest, hrest⟩ := List.head?_eq_some_iff.mp hhead
  have hletter : 'S'.toLower ≠ 'i' := by decide
  rw [hrest, infers, List.take_succ_cons, List.map_cons, beq_eq_false_iff_ne]
  intro h
  exact hletter (List.cons.inj h).1

end Statements

namespace Session

open Plan

variable {s : Session} {talk : List ClusterEvent}

def outcomeOf (reply : QueryReply) : Outcome :=
  match reply.mutations with
  | some count => .updated count
  | none => .rows (.documents reply.rows)

theorem conversation_executeNative_iff {sql : String} {readOnly : Bool}
    {told : Except Failure Outcome} (hopen : s.closed = false)
    (hasks : infers (normalize sql.toList) = false) :
    Conversation (s.executeNative sql readOnly) talk told ↔
      ∃ answer, talk = [.answered (.query (.ofList (normalize sql.toList))
          (s.queryOptions readOnly)) answer] ∧
        told = answer.bind fun reply => .ok (outcomeOf reply) := by
  have hplan : s.executeNative sql readOnly =
      (ClusterPlan.query (.ofList (normalize sql.toList)) (s.queryOptions readOnly)).bind
        fun reply => Plan.ofExcept (.ok (outcomeOf reply)) := by
    rw [executeNative, query_of_open hopen, hasks]
    show Plan.bind _ _ = Plan.bind _ _
    congr 1
    funext reply
    cases hcount : reply.mutations <;> simp [outcomeOf, hcount] <;> rfl
  rw [hplan, conversation_bind_ofExcept_iff]
  simp only [conversation_query_iff]

theorem conversation_sampleSome_iff (hopen : s.closed = false) (table : Keyspace) (size : Nat)
    (rows : List Json) {outcome : Except Failure (List SampledColumn)} :
    Conversation (s.sampleSome table size)
        [.answered (.query (.ofList (normalize (samplingStatement table size).toList))
          (s.queryOptions true)) (.ok ⟨rows, none⟩)] outcome ↔
      outcome = .ok (collectColumns (rows.take size)) := by
  have hrows : ((rows.map ([·])).take size).filterMap List.head? = rows.take size := by
    rw [← List.map_take, List.filterMap_map]
    exact List.filterMap_some
  rw [sampleSome, bind_eq, conversation_attempt_bind_iff]
  simp only [conversation_executeNative_iff hopen (not_infers_samplingStatement table size)]
  constructor
  · rintro ⟨told, first, second, htalk, ⟨answer, rfl, rfl⟩, hsecond⟩
    cases htalk
    obtain ⟨-, rfl⟩ := conversation_done_iff.mp hsecond
    exact congrArg (Except.ok ∘ collectColumns) hrows
  · rintro rfl
    refine ⟨_, _, [], (List.append_nil _).symm, ⟨_, rfl, rfl⟩, ?_⟩
    exact conversation_done_iff.mpr ⟨rfl, congrArg (Except.ok ∘ collectColumns) hrows.symm⟩

/-- A sample of rows that an open session is sent has one column for each path among the
objects of the first rows. -/
theorem columns_of_sampled_rows (hopen : s.closed = false) (table : Keyspace) (size : Nat)
    (rows : List Json) :
    ∃ paths columns, Merges (rows.take size) paths columns ∧
      ∀ outcome, Conversation (s.sampleSome table size)
          [.answered (.query (.ofList (normalize (samplingStatement table size).toList))
            (s.queryOptions true)) (.ok ⟨rows, none⟩)] outcome ↔
        outcome = .ok columns := by
  refine ⟨_, _, merges_collectColumns (rows.take size), fun outcome => ?_⟩
  exact conversation_sampleSome_iff hopen table size rows

/-- A key with a full stop in it and a field of an object keep columns of their own. -/
theorem columns_of_nested_rows :
    let s : Session := { parameters := .resolve "adbc:couchbase:h" ['h'] [] none none [] }
    let rows : List Json :=
      [.object [("a", .null), ("b", .object [("c", .int 1)]), ("b.c", .text "x")], .text "skipped",
        .object [("a", .bool true), ("b", .list []), ("", .null)], .object [("late", .null)]]
    s.closed = false ∧ ∃ paths columns, Merges (rows.take 3) paths columns ∧
      paths = [["a"], ["b"], ["b", "c"], ["b.c"], [""]] ∧
      columns = [⟨"a", .boolean⟩, ⟨"b", .object⟩, ⟨"b.c", .numeric⟩, ⟨"b\\.c", .string⟩,
        ⟨"", .null⟩] ∧
      ∀ outcome, Conversation (s.sampleSome ⟨none, "k"⟩ 3)
          [.answered (.query (.ofList (normalize (samplingStatement ⟨none, "k"⟩ 3).toList))
            (s.queryOptions true)) (.ok ⟨rows, none⟩)] outcome ↔
        outcome = .ok columns := by
  intro s rows
  obtain ⟨paths, columns, hmerges, htold⟩ := columns_of_sampled_rows (s := s) rfl ⟨none, "k"⟩ 3 rows
  refine ⟨rfl, paths, columns, hmerges, ?_, ?_, htold⟩
  · rw [hmerges.firstMet]
    decide +kernel
  · rw [hmerges.described, hmerges.firstMet]
    decide +kernel

end Session

end KeyspaceLink
