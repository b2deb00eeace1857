import KeyspaceLink.Proofs.MergedColumns

/-! Names of columns. The keys of a field can be read off the name of its column, whatever full
stops and backslashes they hold, so columns of different fields have different names. -/

namespace KeyspaceLink

/-- The name of a field below other fields, each key qualified under those before it. -/
def qualifiedName (key : String) (below : List String) : String :=
  below.foldl (fun name key => qualify (some name) key) (qualify none key)

/-- The keys of a field, read off its name. -/
def fieldPath (name : String) : FieldPath := (keysOfName name.toList).map .ofList

theorem qualifiedName_concat (key : String) (below : List String) (last : String) :
    qualifiedName key (below ++ [last]) = qualify (some (qualifiedName key below)) last := by
  simp [qualifiedName]

theorem qualifiedName_eq (key : String) (below : List String) :
    qualifiedName key below = dottedName (key :: below) := by
  -- from the end, where a key is qualified under all the others
  induction below using List.reverseRecOn with
  | nil => simp [qualifiedName, qualify, dottedName]
  | append_singleton below last ih =>
    have hne : key :: below ≠ [] := List.cons_ne_nil key below
    rw [qualifiedName_concat, ih, qualify_dottedName hne, List.cons_append]

theorem fieldPath_dottedName {path : List String} (h : path ≠ []) :
    fieldPath (dottedName path) = path := by
  have hkeys := keysOfName_dottedName h
  rw [fieldPath, hkeys, List.map_map]
  have hsame : (String.ofList ∘ String.toList) = id := by
    funext key
    exact String.ofList_toList
  rw [hsame, List.map_id]

theorem fieldPath_qualifiedName (key : String) (below : List String) :
    fieldPath (qualifiedName key below) = key :: below := by
  rw [qualifiedName_eq]
  exact fieldPath_dottedName (List.cons_ne_nil key below)

example : fieldPath "a\\.b..c\\\\" = ["a.b", "", "c\\"] := by decide +kernel

theorem qualifiedName_inj {key key' : String} {below below' : List String} :
    qualifiedName key below = qualifiedName key' below' ↔ key = key' ∧ below = below' := by
  constructor
  · intro h
    have hpath := congrArg fieldPath h
    rw [fieldPath_qualifiedName, fieldPath_qualifiedName] at hpath
    exact List.cons.inj hpath
  · rintro ⟨rfl, rfl⟩
    rfl

theorem fieldPath_columnAt {seen : List (FieldPath × Json)} {path : FieldPath} (h : path ≠ []) :
    fieldPath (columnAt seen path).name = path := by
  rw [columnAt]
  exact fieldPath_dottedName h

/-- The keys read off the names of the columns are the paths met among the documents. -/
theorem paths_of_collectColumns (documents : List Json) :
    (collectColumns documents).map (fun c => fieldPath c.name) = pathsOf (fieldsOf documents) := by
  have hmerges := merges_collectColumns documents
  have hpath : ∀ path ∈ pathsOf (fieldsOf documents),
      fieldPath (columnAt (fieldsOf documents) path).name = path := by
    intro path hmem
    obtain ⟨members, v, -, hleads⟩ := (hmerges.reached path).mp hmem
    exact fieldPath_columnAt hleads.ne_nil
  rw [hmerges.described, List.map_map]
  exact (List.map_congr_left hpath).trans (List.map_id _)

/-- The name of a field tells its keys, so that no two fields share one; what is nested never has
the name of a key at the top, also where that holds full stops. -/
theorem names_tell_their_fields :
    (∀ key below, fieldPath (qualifiedName key below) = key :: below) ∧
      (∀ key key' below below', qualifiedName key below = qualifiedName key' below' ↔
        key = key' ∧ below = below') ∧
      (∀ key next below top, qualifiedName key (next :: below) ≠ qualify none top) ∧
      ∀ documents, (collectColumns documents).map (fun c => fieldPath c.name) =
        pathsOf (fieldsOf documents) := by
  refine ⟨fieldPath_qualifiedName, fun key key' below below' => qualifiedName_inj, ?_,
    paths_of_collectColumns⟩
  intro key next below top hsame
  have htop : qualify none top = qualifiedName top [] := rfl
  rw [htop, qualifiedName_inj] at hsame
  exact List.cons_ne_nil next below hsame.2

end KeyspaceLink
