import KeyspaceLink.Catalog.Regex
import Mathlib

/-! What regular expressions match, and how they are read. A match stands between what is before
it and what comes after it, which the anchors look at; the table of a text holds, for every suffix
of it, whether a match begins there. -/

namespace KeyspaceLink.Regex

/-- The items match a text between the text before it and the text after it. -/
inductive Matches : Regex → List Char → List Char → List Char → Prop
  | nil (before after : List Char) : Matches [] before [] after
  | start {r : Regex} {w after : List Char} (rest : Matches r [] w after) :
      Matches (.start :: r) [] w after
  | finish {r : Regex} {before : List Char} (rest : Matches r before [] []) :
      Matches (.finish :: r) before [] []
  | one {k : CharClass} {c : Char} {r : Regex} {before w after : List Char}
      (takes : k.takes c = true) (rest : Matches r (before ++ [c]) w after) :
      Matches (.one k :: r) before (c :: w) after
  | many {k : CharClass} {u : List Char} {r : Regex} {before w after : List Char}
      (takes : ∀ c ∈ u, k.takes c = true) (rest : Matches r (before ++ u) w after) :
      Matches (.many k :: r) before (u ++ w) after

/-- The text contains a match. -/
def Finds (r : Regex) (s : List Char) : Prop :=
  ∃ before w after, s = before ++ w ++ after ∧ r.Matches before w after

section Inversion

variable {r : Regex} {k : CharClass} {before w after : List Char}

theorem matches_nil_iff : Matches [] before w after ↔ w = [] := by
  constructor
  · intro h
    cases h
    rfl
  · rintro rfl
    exact .nil before after

theorem matches_start_iff :
    Matches (.start :: r) before w after ↔ before = [] ∧ Matches r [] w after := by
  constructor
  · intro h
    cases h with
    | start rest => exact ⟨rfl, rest⟩
  · rintro ⟨rfl, rest⟩
    exact .start rest

theorem matches_finish_iff :
    Matches (.finish :: r) before w after ↔ w = [] ∧ after = [] ∧ Matches r before [] [] := by
  constructor
  · intro h
    cases h with
    | finish rest => exact ⟨rfl, rfl, rest⟩
  · rintro ⟨rfl, rfl, rest⟩
    exact .finish rest

theorem matches_one_iff :
    Matches (.one k :: r) before w after ↔
      ∃ c v, w = c :: v ∧ k.takes c = true ∧ Matches r (before ++ [c]) v after := by
  constructor
  · intro h
    cases h with
    | one takes rest => exact ⟨_, _, rfl, takes, rest⟩
  · rintro ⟨c, v, rfl, takes, rest⟩
    exact .one takes rest

theorem matches_many_iff :
    Matches (.many k :: r) before w after ↔
      ∃ u v, w = u ++ v ∧ (∀ c ∈ u, k.takes c = true) ∧ Matches r (before ++ u) v after := by
  constructor
  · intro h
    cases h with
    | many takes rest => exact ⟨_, _, rfl, takes, rest⟩
  · rintro ⟨u, v, rfl, takes, rest⟩
    exact .many takes rest

/-- What comes first leaves the rest after it, and what comes next has it before. -/
theorem matches_append_iff {later : Regex} :
    Matches (r ++ later) before w after ↔
      ∃ u v, w = u ++ v ∧ r.Matches before u (v ++ after) ∧
        later.Matches (before ++ u) v after := by
  induction r generalizing before w after with
  | nil =>
    simp only [List.nil_append, matches_nil_iff]
    constructor
    · exact fun h => ⟨[], w, rfl, rfl, by rwa [List.append_nil]⟩
    · rintro ⟨_, v, rfl, rfl, h⟩
      rwa [List.append_nil] at h
  | cons item r ih =>
    rw [List.cons_append]
    cases item with
    | start =>
      simp only [matches_start_iff, ih]
      constructor
      · rintro ⟨rfl, u, v, rfl, h⟩
        exact ⟨u, v, rfl, ⟨rfl, h.1⟩, h.2⟩
      · rintro ⟨u, v, rfl, ⟨rfl, h⟩, hlater⟩
        exact ⟨rfl, u, v, rfl, h, hlater⟩
    | finish =>
      simp only [matches_finish_iff, ih]
      constructor
      · rintro ⟨rfl, rfl, u, v, hsplit, h, hlater⟩
        obtain ⟨rfl, rfl⟩ := List.append_eq_nil_iff.mp hsplit.symm
        exact ⟨[], [], rfl, ⟨rfl, rfl, h⟩, hlater⟩
      · rintro ⟨_, v, rfl, ⟨rfl, hrest, h⟩, hlater⟩
        obtain ⟨rfl, rfl⟩ := List.append_eq_nil_iff.mp hrest
        exact ⟨rfl, rfl, [], [], rfl, h, hlater⟩
    | one k =>
      simp only [matches_one_iff, ih]
      constructor
      · rintro ⟨c, _, rfl, takes, u, v, rfl, h, hlater⟩
        exact ⟨c :: u, v, rfl, ⟨c, u, rfl, takes, h⟩, by rwa [List.append_cons]⟩
      · rintro ⟨_, v, rfl, ⟨c, u, rfl, takes, h⟩, hlater⟩
        rw [List.append_cons] at hlater
        exact ⟨c, u ++ v, rfl, takes, u, v, rfl, h, hlater⟩
    | many k =>
      simp only [matches_many_iff, ih]
      constructor
      · rintro ⟨run, _, rfl, takes, u, v, rfl, h, hlater⟩
        rw [List.append_assoc] at hlater
        exact ⟨run ++ u, v, (List.append_assoc run u v).symm, ⟨run, u, rfl, takes, h⟩, hlater⟩
      · rintro ⟨_, v, rfl, ⟨run, u, rfl, takes, h⟩, hlater⟩
        rw [← List.append_assoc] at hlater
        exact ⟨run, u ++ v, List.append_assoc run u v, takes, u, v, rfl, h, hlater⟩

end Inversion

/-- A match begins between what is before and the rest of the text. -/
def Begins (r : Regex) (before rest : List Char) : Prop :=
  ∃ w after, rest = w ++ after ∧ r.Matches before w after

theorem finds_iff_begins {r : Regex} {s : List Char} :
    r.Finds s ↔ ∃ before rest, s = before ++ rest ∧ r.Begins before rest := by
  constructor
  · rintro ⟨before, w, after, rfl, h⟩
    exact ⟨before, w ++ after, List.append_assoc _ _ _, w, after, rfl, h⟩
  · rintro ⟨before, _, rfl, w, after, rfl, h⟩
    exact ⟨before, w, after, (List.append_assoc _ _ _).symm, h⟩

section Begins

variable {r : Regex} {k : CharClass} {c : Char} {before s : List Char}

theorem begins_nil : Begins [] before s := ⟨[], s, rfl, .nil _ _⟩

theorem begins_start_iff : Begins (.start :: r) before s ↔ before = [] ∧ r.Begins [] s := by
  simp only [Begins, matches_start_iff]
  constructor
  · rintro ⟨w, after, rfl, rfl, h⟩
    exact ⟨rfl, w, after, rfl, h⟩
  · rintro ⟨rfl, w, after, rfl, h⟩
    exact ⟨w, after, rfl, rfl, h⟩

theorem begins_finish_iff : Begins (.finish :: r) before s ↔ s = [] ∧ r.Begins before [] := by
  simp only [Begins, matches_finish_iff]
  constructor
  · rintro ⟨_, _, rfl, rfl, rfl, h⟩
    exact ⟨rfl, [], [], rfl, h⟩
  · rintro ⟨rfl, w, after, hsplit, h⟩
    obtain ⟨rfl, rfl⟩ := List.append_eq_nil_iff.mp hsplit.symm
    exact ⟨[], [], rfl, rfl, rfl, h⟩

theorem begins_one_nil : ¬ Begins (.one k :: r) before [] := by
  rintro ⟨w, after, hsplit, h⟩
  obtain ⟨c, v, rfl, -⟩ := matches_one_iff.mp h
  simp at hsplit

theorem begins_one_cons :
    Begins (.one k :: r) before (c :: s) ↔ k.takes c = true ∧ r.Begins (before ++ [c]) s := by
  simp only [Begins, matches_one_iff]
  constructor
  · rintro ⟨_, after, hsplit, d, v, rfl, takes, h⟩
    obtain ⟨rfl, rfl⟩ := List.cons.inj hsplit
    exact ⟨takes, v, after, rfl, h⟩
  · rintro ⟨takes, w, after, rfl, h⟩
    exact ⟨c :: w, after, rfl, c, w, rfl, takes, h⟩

theorem begins_many_nil : Begins (.many k :: r) before [] ↔ r.Begins before [] := by
  simp only [Begins, matches_many_iff]
  constructor
  · rintro ⟨_, after, hsplit, u, v, rfl, -, h⟩
    obtain ⟨huv, rfl⟩ := List.append_eq_nil_iff.mp hsplit.symm
    obtain ⟨rfl, rfl⟩ := List.append_eq_nil_iff.mp huv
    rw [List.append_nil] at h
    exact ⟨[], [], rfl, h⟩
  · rintro ⟨w, after, hsplit, h⟩
    exact ⟨w, after, hsplit, [], w, rfl, by simp, by rwa [List.append_nil]⟩

/-- A run is empty, or it takes the first character and goes on. -/
theorem begins_many_cons :
    Begins (.many k :: r) before (c :: s) ↔
      r.Begins before (c :: s) ∨
        k.takes c = true ∧ Begins (.many k :: r) (before ++ [c]) s := by
  simp only [Begins, matches_many_iff]
  constructor
  · rintro ⟨_, after, hsplit, u, v, rfl, takes, h⟩
    cases u with
    | nil =>
      rw [List.append_nil] at h
      exact .inl ⟨v, after, hsplit, h⟩
    | cons d u =>
      obtain ⟨rfl, rfl⟩ := List.cons.inj hsplit
      obtain ⟨hfirst, htakes⟩ := List.forall_mem_cons.mp takes
      rw [List.append_cons] at h
      exact .inr ⟨hfirst, u ++ v, after, rfl, u, v, rfl, htakes, h⟩
  · rintro (⟨w, after, hsplit, h⟩ | ⟨hfirst, _, after, rfl, u, v, rfl, takes, h⟩)
    · exact ⟨w, after, hsplit, [], w, rfl, by simp, by rwa [List.append_nil]⟩
    · rw [← List.append_cons] at h
      exact ⟨c :: (u ++ v), after, rfl, c :: u, v, rfl, List.forall_mem_cons.mpr ⟨hfirst, takes⟩, h⟩

end Begins

/-- The entries tell of every suffix of a text, the longest first, whether it has a property with
what is before it. -/
inductive Tells (P : List Char → List Char → Prop) : List Char → List Char → List Bool → Prop
  | nil {before : List Char} {b : Bool} (h : b = true ↔ P before []) : Tells P before [] [b]
  | cons {c : Char} {before s : List Char} {b : Bool} {bs : List Bool}
      (h : b = true ↔ P before (c :: s)) (hrest : Tells P (before ++ [c]) s bs) :
      Tells P before (c :: s) (b :: bs)

section Table

variable {P : List Char → List Char → Prop} {r : Regex} {k : CharClass} {before s : List Char}
  {bs : List Bool}

theorem Tells.headD (h : Tells P before s bs) : bs.headD false = true ↔ P before s := by
  cases h with
  | nil h => exact h
  | cons h _ => exact h

theorem Tells.any_iff (h : Tells P before s bs) :
    bs.any id = true ↔ ∃ skipped rest, s = skipped ++ rest ∧ P (before ++ skipped) rest := by
  induction h with
  | @nil before b h =>
    rw [List.any_cons, List.any_nil, Bool.or_false, id, h]
    constructor
    · exact fun hp => ⟨[], [], rfl, by rwa [List.append_nil]⟩
    · rintro ⟨skipped, rest, hsplit, hp⟩
      obtain ⟨rfl, rfl⟩ := List.append_eq_nil_iff.mp hsplit.symm
      rwa [List.append_nil] at hp
  | @cons c before s b bs h _ ih =>
    rw [List.any_cons, Bool.or_eq_true, id, h, ih]
    constructor
    · rintro (hp | ⟨skipped, rest, rfl, hp⟩)
      · exact ⟨[], c :: s, rfl, by rwa [List.append_nil]⟩
      · exact ⟨c :: skipped, rest, rfl, by rwa [List.append_cons]⟩
    · rintro ⟨skipped, rest, hsplit, hp⟩
      cases skipped with
      | nil =>
        rw [List.append_nil] at hp
        exact .inl (hsplit ▸ hp)
      | cons d skipped =>
        obtain ⟨rfl, rfl⟩ := List.cons.inj hsplit
        rw [List.append_cons] at hp
        exact .inr ⟨skipped, rest, rfl, hp⟩

theorem tells_nil : Tells (Begins []) before s (s.map (fun _ => true) ++ [true]) := by
  induction s generalizing before with
  | nil => exact .nil (by simp [begins_nil])
  | cons c s ih => exact .cons (by simp [begins_nil]) ih

/-- Past the first character no match begins with the first anchor. -/
theorem tells_start_later (hbefore : before ≠ []) (h : Tells (Begins r) before s bs) :
    Tells (Begins (.start :: r)) before s (bs.map fun _ => false) := by
  induction h with
  | nil _ => exact .nil (by simp [begins_start_iff, hbefore])
  | cons _ _ ih => exact .cons (by simp [begins_start_iff, hbefore]) (ih (by simp))

theorem tells_start (h : Tells (Begins r) [] s bs) :
    Tells (Begins (.start :: r)) [] s (onlyFirst bs) := by
  cases h with
  | nil h => exact .nil (by rw [h, begins_start_iff, and_iff_right rfl])
  | cons h hrest =>
    exact .cons (by rw [h, begins_start_iff, and_iff_right rfl])
      (tells_start_later (by simp) hrest)

theorem tells_finish (h : Tells (Begins r) before s bs) :
    Tells (Begins (.finish :: r)) before s (s.map (fun _ => false) ++ bs.drop s.length) := by
  induction h with
  | nil h => exact .nil (by rw [h, begins_finish_iff, and_iff_right rfl])
  | cons _ _ ih => exact .cons (by simp [begins_finish_iff]) ih

theorem tells_one (h : Tells (Begins r) before s bs) :
    Tells (Begins (.one k :: r)) before s
      (s.zipWith (fun c b => k.takes c && b) bs.tail ++ [false]) := by
  induction h with
  | nil h => exact .nil (by simp [begins_one_nil])
  | cons h hrest ih =>
    cases hrest with
    | nil h' => exact .cons (by rw [Bool.and_eq_true, h', begins_one_cons]) ih
    | cons h' _ => exact .cons (by rw [Bool.and_eq_true, h', begins_one_cons]) ih

theorem tells_many (h : Tells (Begins r) before s bs) :
    Tells (Begins (.many k :: r)) before s (runs k s bs) := by
  induction h with
  | nil h => exact .nil (by rw [h, begins_many_nil])
  | cons h _ ih =>
    refine .cons ?_ ih
    rw [Bool.or_eq_true, Bool.and_eq_true, h, ih.headD, begins_many_cons]

/-- The table tells where matches begin. -/
theorem tells_table (r : Regex) (s : List Char) : Tells r.Begins [] s (table s r) := by
  induction r with
  | nil => exact tells_nil
  | cons item r ih =>
    cases item with
    | start => exact tells_start ih
    | finish => exact tells_finish ih
    | one k => exact tells_one ih
    | many k => exact tells_many ih

end Table

/-- A search finds a match just when the text contains one. -/
theorem isMatch_iff_finds {r : Regex} {s : List Char} : r.isMatch s = true ↔ r.Finds s := by
  rw [isMatch, (tells_table r s).any_iff, finds_iff_begins]
  rfl

section Sources

def classSource : CharClass → List Char
  | .char c => escape c
  | .dot _ => ['.']

/-- How an item is written. -/
def Item.source : Item → List Char
  | start => ['^']
  | finish => ['$']
  | one k => classSource k
  | many k => classSource k ++ ['*']

def Item.tokens : Item → List Token
  | start => [.start]
  | finish => [.finish]
  | one k => [.set k]
  | many k => [.set k, .star]

/-- The dots of an expression take line breaks, or they do not. -/
def ClassFits (takesBreaks : Bool) : CharClass → Prop
  | .char _ => True
  | .dot b => b = takesBreaks

def Item.Fits (takesBreaks : Bool) : Item → Prop
  | start | finish => True
  | one k | many k => ClassFits takesBreaks k

variable {takesBreaks : Bool} {s : List Char} {ts : List Token}

theorem lex_escape {c : Char} (h : lex takesBreaks s = some ts) :
    lex takesBreaks (escape c ++ s) = some (.set (.char c) :: ts) := by
  by_cases hmeta : metaCharacters.contains c = true
  · rw [escape, if_pos hmeta, List.cons_append, List.singleton_append, lex, if_pos hmeta, h]
    rfl
  · have hnot : ∀ d ∈ metaCharacters, c ≠ d := by
      rintro d hd rfl
      exact hmeta (List.contains_iff_mem.mpr hd)
    simp only [metaCharacters, List.forall_mem_cons] at hnot
    have htoken : token? takesBreaks c = some (.set (.char c)) := by
      simp [token?, hnot]
    rw [escape, if_neg hmeta, List.singleton_append, lex, htoken, h]
    · rfl
    · exact fun _ _ hslash _ => hnot.1 hslash

theorem lex_classSource {k : CharClass} (hdot : ClassFits takesBreaks k)
    (h : lex takesBreaks s = some ts) :
    lex takesBreaks (classSource k ++ s) = some (.set k :: ts) := by
  cases k with
  | char c => exact lex_escape h
  | dot b =>
    obtain rfl : b = takesBreaks := hdot
    rw [classSource, List.singleton_append, lex, h]
    · rfl
    · simp

theorem lex_source {r : Regex} (hdots : ∀ item ∈ r, item.Fits takesBreaks) :
    lex takesBreaks (r.flatMap Item.source) = some (r.flatMap Item.tokens) := by
  induction r with
  | nil => rfl
  | cons item r ih =>
    obtain ⟨hdot, hdots⟩ := List.forall_mem_cons.mp hdots
    have hrest := ih hdots
    rw [List.flatMap_cons, List.flatMap_cons]
    cases item with
    | start | finish =>
      rw [Item.source, List.singleton_append, lex, hrest]
      · rfl
      · simp
    | one k => exact lex_classSource hdot hrest
    | many k =>
      have hstar : lex takesBreaks ('*' :: r.flatMap Item.source) =
          some (.star :: r.flatMap Item.tokens) := by
        rw [lex, hrest]
        · rfl
        · simp
      rw [Item.source, List.append_assoc]
      exact lex_classSource hdot hstar

theorem items_tokens (r : Regex) : items (r.flatMap Item.tokens) = some r := by
  induction r with
  | nil => rfl
  | cons item r ih =>
    rw [List.flatMap_cons]
    cases item with
    | start | finish | many k =>
      simp only [Item.tokens, List.cons_append, List.nil_append, items, ih, Option.map_some]
    | one k =>
      -- what comes next is no star, so the character stands alone
      cases r with
      | nil => rfl
      | cons next r => cases next <;> simp_all [Item.tokens, items]

/-- What is written with the flag for dots that take line breaks is read as it is meant. -/
theorem read_source {r : Regex} (hdots : ∀ item ∈ r, item.Fits true) :
    read? (['(', '?', 's', ')'] ++ r.flatMap Item.source) = some r := by
  rw [List.cons_append, List.cons_append, List.cons_append, List.singleton_append, read?,
    lex_source hdots, Option.bind_some, items_tokens]

end Sources

theorem weight_eq (r : Regex) :
    r.weight = (frame.1 + (r.map fun item => item.weight.1).sum,
      frame.2 + (r.map fun item => item.weight.2).sum) := by
  rw [weight]
  -- for the induction the fold starts from any weight
  generalize frame = w
  induction r generalizing w with
  | nil => rfl
  | cons item r ih =>
    rw [List.foldl_cons, ih]
    simp only [List.map_cons, List.sum_cons, Nat.add_assoc]

end KeyspaceLink.Regex
