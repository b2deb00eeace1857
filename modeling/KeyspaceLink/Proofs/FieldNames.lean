import Mathlib
import KeyspaceLink.Sample.Collector

/-! Names of fields. The name of a path is its keys, escaped, with full stops between them, and
the keys can be read off the name again, so paths that differ have names that differ. -/

namespace KeyspaceLink

def dottedName (path : List String) : String := ".".intercalate (path.map escapeKey)

theorem dottedName_cons {path : List String} (h : path ≠ []) (key : String) :
    dottedName (key :: path) = escapeKey key ++ "." ++ dottedName path := by
  cases path with
  | nil => exact absurd rfl h
  | cons next path => exact String.intercalate_cons_cons

/-- Qualifying the names of a path one under another gives its name. -/
theorem qualify_dottedName {path : List String} (h : path ≠ []) (key : String) :
    qualify (some (dottedName path)) key = dottedName (path ++ [key]) := by
  induction path with
  | nil => exact absurd rfl h
  | cons first path ih =>
    by_cases hpath : path = []
    · subst hpath
      exact (dottedName_cons (List.cons_ne_nil key []) first).symm
    · have hrest := ih hpath
      have hlonger : path ++ [key] ≠ [] :=
        List.append_ne_nil_of_right_ne_nil path (List.cons_ne_nil key [])
      rw [qualify] at hrest ⊢
      rw [List.cons_append, dottedName_cons hlonger, dottedName_cons hpath, ← hrest]
      simp only [String.append_assoc]

section Decoding

variable {c : Char} {key r : List Char} {keys : List (List Char)}

def extendFirst (c : Char) : List (List Char) → List (List Char)
  | [] => [[c]]
  | key :: keys => (c :: key) :: keys

/-- A full stop ends a key, and a backslash takes the next character as it is. -/
def keysOfName : List Char → List (List Char)
  | [] => [[]]
  | '\\' :: c :: r => extendFirst c (keysOfName r)
  | c :: r => if c == '.' then [] :: keysOfName r else extendFirst c (keysOfName r)

theorem keysOfName_escapeKeyChar (c : Char) (r : List Char) :
    keysOfName (escapeKeyChar c ++ r) = extendFirst c (keysOfName r) := by
  by_cases hc : c = '\\' ∨ c = '.'
  · rcases hc with rfl | rfl <;> rfl
  · have hslash : c ≠ '\\' := fun h => hc (.inl h)
    have hstop : c ≠ '.' := fun h => hc (.inr h)
    have hwritten : escapeKeyChar c = [c] := by simp [escapeKeyChar, hslash, hstop]
    rw [hwritten, List.singleton_append, keysOfName]
    · rw [if_neg (by simpa using hstop)]
    · exact fun _ _ h _ => hslash h

theorem keysOfName_escaped (h : keysOfName r = key :: keys) (s : List Char) :
    keysOfName (s.flatMap escapeKeyChar ++ r) = (s ++ key) :: keys := by
  induction s with
  | nil => exact h
  | cons c s ih =>
    rw [List.flatMap_cons, List.append_assoc, keysOfName_escapeKeyChar, ih]
    rfl

theorem keysOfName_dottedName {path : List String} (h : path ≠ []) :
    keysOfName (dottedName path).toList = path.map String.toList := by
  have hescaped : ∀ key, (escapeKey key).toList = key.toList.flatMap escapeKeyChar :=
    fun key => String.toList_ofList
  induction path with
  | nil => exact absurd rfl h
  | cons key path ih =>
    by_cases hpath : path = []
    · subst hpath
      have hend := keysOfName_escaped (r := []) rfl key.toList
      simpa [dottedName, hescaped] using hend
    · have hstop : keysOfName ('.' :: (dottedName path).toList) = [] :: path.map String.toList := by
        rw [keysOfName, ih hpath]
        · rfl
        · exact fun _ _ hc _ => absurd hc (by decide)
      rw [dottedName_cons hpath, String.toList_append, String.toList_append, hescaped,
        List.append_assoc, List.map_cons]
      simpa using keysOfName_escaped hstop key.toList

end Decoding

theorem dottedName_inj {path path' : List String} (h : path ≠ []) (h' : path' ≠ []) :
    dottedName path = dottedName path' ↔ path = path' := by
  constructor
  · intro hname
    have hkeys := keysOfName_dottedName h
    rw [hname, keysOfName_dottedName h'] at hkeys
    exact (List.map_injective_iff.mpr (fun _ _ => String.toList_inj.mp) hkeys).symm
  · rintro rfl
    rfl

end KeyspaceLink
