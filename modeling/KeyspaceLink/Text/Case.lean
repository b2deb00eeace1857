/-! Letters compared without regard to case. Names and values fold ASCII letters
only; keywords of commands fold as Unicode does, which adds two letters. -/

namespace KeyspaceLink

/-- Capital ASCII letters become small; every other character stays. -/
def lower (s : String) : String := .ofList (s.toList.map Char.toLower)

def sameIgnoringCase (a b : String) : Bool := lower a == lower b

/-- The simple case folding of Unicode on the letters that fold to ASCII: the long s
(U+017F) is an s, the Kelvin sign (U+212A) a k. -/
def foldLetter (c : Char) : Char :=
  if c.toNat == 0x17F then 's' else if c.toNat == 0x212A then 'k' else c.toLower

/-- ASCII letters, digits aside, and what folds to one. -/
def isLetter (c : Char) : Bool := (foldLetter c).isLower

/-- Splits off `word`, a word in small letters, written in any case. -/
def dropWord : List Char → List Char → Option (List Char)
  | [], s => some s
  | _ :: _, [] => none
  | w :: word, c :: s => if foldLetter c == w then dropWord word s else none

/-- The text after `start`, if the text begins so. -/
def dropStart? : List Char → List Char → Option (List Char)
  | [], s => some s
  | _ :: _, [] => none
  | w :: start, c :: s => if c == w then dropStart? start s else none

/-- The text before `ending`, if the text ends so. -/
def dropEnding? (ending s : List Char) : Option (List Char) :=
  (dropStart? ending.reverse s.reverse).map List.reverse

def mentions (needle : List Char) : List Char → Bool
  | [] => needle.isEmpty
  | c :: s => (dropStart? needle (c :: s)).isSome || mentions needle s

theorem dropStart?_eq_some {start s r : List Char} (h : dropStart? start s = some r) :
    s = start ++ r := by
  induction start generalizing s with
  | nil => simpa [dropStart?] using h
  | cons w start ih =>
    cases s with
    | nil => simp [dropStart?] at h
    | cons c s =>
      simp only [dropStart?] at h
      split at h
      · next hc => simp [eq_of_beq hc, ih h]
      · simp at h

theorem dropStart?_append (start r : List Char) : dropStart? start (start ++ r) = some r := by
  induction start with
  | nil => rfl
  | cons w start ih => simp [dropStart?, ih]

theorem dropEnding?_eq_some_iff {ending s inner : List Char} :
    dropEnding? ending s = some inner ↔ s = inner ++ ending := by
  rw [dropEnding?, Option.map_eq_some_iff]
  constructor
  · rintro ⟨back, hback, rfl⟩
    have hwhole := congrArg List.reverse (dropStart?_eq_some hback)
    rwa [List.reverse_reverse, List.reverse_append, List.reverse_reverse] at hwhole
  · rintro rfl
    refine ⟨inner.reverse, ?_, List.reverse_reverse inner⟩
    rw [List.reverse_append, dropStart?_append]

theorem isSome_dropStart?_iff {start s : List Char} :
    (dropStart? start s).isSome = true ↔ start <+: s := by
  constructor
  · intro h
    obtain ⟨r, hr⟩ := Option.isSome_iff_exists.mp h
    exact ⟨r, (dropStart?_eq_some hr).symm⟩
  · rintro ⟨r, rfl⟩
    rw [dropStart?_append]
    rfl

theorem mentions_iff {needle s : List Char} : mentions needle s = true ↔ needle <:+: s := by
  induction s with
  | nil => rw [mentions, List.isEmpty_iff, List.infix_nil]
  | cons c s ih => rw [mentions, Bool.or_eq_true, isSome_dropStart?_iff, ih, List.infix_cons_iff]

end KeyspaceLink
