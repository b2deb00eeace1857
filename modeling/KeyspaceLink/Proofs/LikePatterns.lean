import KeyspaceLink.Catalog.Like
import KeyspaceLink.Proofs.RegexMatches

/-! Patterns of names and the texts they match. A pattern says what the pieces of a text are, and
the regular expression it is turned into matches just such texts. -/

namespace KeyspaceLink

/-- The text is made of one piece for each token of the pattern, in order. -/
inductive Like : List Char → List Char → Prop
  | empty : Like [] []
  | run (u : List Char) {p w : List Char} (h : Like p w) : Like ('%' :: p) (u ++ w)
  | one (c : Char) {p w : List Char} (h : Like p w) : Like ('_' :: p) (c :: w)
  | escaped (c : Char) {p w : List Char} (h : Like p w) : Like ('\\' :: c :: p) (c :: w)
  | lone : Like ['\\'] []
  | char {c : Char} (hrun : c ≠ '%') (hone : c ≠ '_') (hslash : c ≠ '\\') {p w : List Char}
      (h : Like p w) : Like (c :: p) (c :: w)

/-- The backslashes at the end of the pattern are paired off from the left, and one is left. -/
def Unpaired (p : List Char) : Prop := Odd (p.reverse.takeWhile (· == '\\')).length

instance (p : List Char) : Decidable (Unpaired p) := inferInstanceAs (Decidable (Odd _))

section Inversion

variable {c : Char} {p q w : List Char}

theorem like_nil_iff : Like [] w ↔ w = [] := by
  constructor
  · intro h
    cases h
    rfl
  · rintro rfl
    exact .empty

theorem like_run_iff : Like ('%' :: p) w ↔ ∃ u v, w = u ++ v ∧ Like p v := by
  constructor
  · intro h
    cases h with
    | run u h => exact ⟨u, _, rfl, h⟩
    | char hrun _ _ _ => exact absurd rfl hrun
  · rintro ⟨u, v, rfl, h⟩
    exact .run u h

theorem like_one_iff : Like ('_' :: p) w ↔ ∃ d v, w = d :: v ∧ Like p v := by
  constructor
  · intro h
    cases h with
    | one d h => exact ⟨d, _, rfl, h⟩
    | char _ hone _ _ => exact absurd rfl hone
  · rintro ⟨d, v, rfl, h⟩
    exact .one d h

theorem like_escaped_iff : Like ('\\' :: c :: p) w ↔ ∃ v, w = c :: v ∧ Like p v := by
  constructor
  · intro h
    cases h with
    | escaped _ h => exact ⟨_, rfl, h⟩
    | char _ _ hslash _ => exact absurd rfl hslash
  · rintro ⟨v, rfl, h⟩
    exact .escaped c h

theorem like_lone_iff : Like ['\\'] w ↔ w = [] := by
  constructor
  · intro h
    cases h with
    | lone => rfl
    | char _ _ hslash _ => exact absurd rfl hslash
  · rintro rfl
    exact .lone

theorem like_char_iff (hrun : c ≠ '%') (hone : c ≠ '_') (hslash : c ≠ '\\') :
    Like (c :: p) w ↔ ∃ v, w = c :: v ∧ Like p v := by
  constructor
  · intro h
    cases h with
    | run => exact absurd rfl hrun
    | one => exact absurd rfl hone
    | escaped | lone => exact absurd rfl hslash
    | char _ _ _ h => exact ⟨_, rfl, h⟩
  · rintro ⟨v, rfl, h⟩
    exact .char hrun hone hslash h

end Inversion

/-- What the tokens of a pattern are as items of an expression. -/
def likeItems : List Char → Regex
  | [] => []
  | '\\' :: c :: r => .one (.char c) :: likeItems r
  | c :: r =>
    if c == '%' then .many (.dot true) :: likeItems r
    else if c == '_' then .one (.dot true) :: likeItems r
    else if c == '\\' then likeItems r
    else .one (.char c) :: likeItems r

def likeRegex (p : List Char) : Regex := .start :: (likeItems p ++ [.finish])

section Items

variable {c : Char} {p q w before after : List Char}

theorem likeItems_run : likeItems ('%' :: p) = .many (.dot true) :: likeItems p := rfl

theorem likeItems_one : likeItems ('_' :: p) = .one (.dot true) :: likeItems p := rfl

theorem likeItems_escaped : likeItems ('\\' :: c :: p) = .one (.char c) :: likeItems p := rfl

theorem likeItems_lone : likeItems ['\\'] = [] := rfl

theorem likeItems_char (hrun : c ≠ '%') (hone : c ≠ '_') (hslash : c ≠ '\\') :
    likeItems (c :: p) = .one (.char c) :: likeItems p := by
  rw [likeItems]
  · simp [hrun, hone, hslash]
  · exact fun _ _ hc _ => hslash hc

/-- What holds of the empty pattern, and of a pattern with a token before it, holds of all. -/
@[elab_as_elim]
theorem token_induction {motive : List Char → Prop} (empty : motive [])
    (run : ∀ p, motive p → motive ('%' :: p)) (one : ∀ p, motive p → motive ('_' :: p))
    (escaped : ∀ c p, motive p → motive ('\\' :: c :: p)) (lone : motive ['\\'])
    (char : ∀ c p, c ≠ '%' → c ≠ '_' → c ≠ '\\' → motive p → motive (c :: p)) (p : List Char) :
    motive p := by
  fun_induction likeItems p with
  | case1 => exact empty
  | case2 c r ih => exact escaped c r ih
  | case3 c r _ hc ih =>
    obtain rfl : c = '%' := by simpa using hc
    exact run r ih
  | case4 c r _ _ hc ih =>
    obtain rfl : c = '_' := by simpa using hc
    exact one r ih
  | case5 c r hmore _ _ hc =>
    obtain rfl : c = '\\' := by simpa using hc
    cases r with
    | nil => exact lone
    | cons d r => exact absurd rfl (hmore d r rfl)
  | case6 c r _ hrun hone hslash ih =>
    exact char c r (by simpa using hrun) (by simpa using hone) (by simpa using hslash) ih

/-- A pattern is turned into the source of its items. -/
theorem likeBody_eq (p : List Char) : likeBody p = (likeItems p).flatMap Regex.Item.source := by
  induction p using token_induction with
  | empty | lone => rfl
  | run p ih =>
    rw [likeItems_run, List.flatMap_cons, ← ih]
    rfl
  | one p ih =>
    rw [likeItems_one, List.flatMap_cons, ← ih]
    rfl
  | escaped c p ih =>
    rw [likeItems_escaped, List.flatMap_cons, ← ih]
    rfl
  | char c p hrun hone hslash ih =>
    have hbody : likeBody (c :: p) = Regex.escape c ++ likeBody p := by
      rw [likeBody]
      · simp [hrun, hone, hslash]
      · exact fun _ _ hc _ => hslash hc
    rw [likeItems_char hrun hone hslash, List.flatMap_cons, hbody, ih]
    rfl

theorem fits_likeItems (p : List Char) : ∀ item ∈ likeItems p, item.Fits true := by
  induction p using token_induction with
  | empty | lone => exact List.forall_mem_nil _
  | run p ih | one p ih => exact List.forall_mem_cons.mpr ⟨rfl, ih⟩
  | escaped c p ih => exact List.forall_mem_cons.mpr ⟨trivial, ih⟩
  | char c p hrun hone hslash ih =>
    rw [likeItems_char hrun hone hslash]
    exact List.forall_mem_cons.mpr ⟨trivial, ih⟩

theorem read_likeSource (p : List Char) : Regex.read? (likeSource p) = some (likeRegex p) := by
  have hsource : likeSource p =
      ['(', '?', 's', ')'] ++ (likeRegex p).flatMap Regex.Item.source := by
    rw [likeSource, likeBody_eq, likeRegex, List.flatMap_cons, List.flatMap_append]
    rfl
  rw [hsource]
  refine Regex.read_source (List.forall_mem_cons.mpr ⟨trivial, fun item hitem => ?_⟩)
  rcases List.mem_append.mp hitem with hitem | hitem
  · exact fits_likeItems p item hitem
  · rw [List.mem_singleton.mp hitem]
    exact trivial

/-- The items of a pattern match the texts that the pattern describes, wherever they stand. -/
theorem matches_likeItems_iff : (likeItems p).Matches before w after ↔ Like p w := by
  induction p using token_induction generalizing before w with
  | empty => rw [likeItems, Regex.matches_nil_iff, like_nil_iff]
  | run p ih =>
    rw [likeItems_run, Regex.matches_many_iff, like_run_iff]
    simp [ih, CharClass.takes]
  | one p ih =>
    rw [likeItems_one, Regex.matches_one_iff, like_one_iff]
    simp [ih, CharClass.takes]
  | escaped c p ih =>
    rw [likeItems_escaped, Regex.matches_one_iff, like_escaped_iff]
    simp [ih, CharClass.takes]
  | lone => rw [likeItems_lone, Regex.matches_nil_iff, like_lone_iff]
  | char c p hrun hone hslash ih =>
    rw [likeItems_char hrun hone hslash, Regex.matches_one_iff, like_char_iff hrun hone hslash]
    simp [ih, CharClass.takes]

theorem finds_likeRegex_iff : (likeRegex p).Finds w ↔ Like p w := by
  have hends : ∀ before u after, (likeRegex p).Matches before u after ↔
      Like p u ∧ before = [] ∧ after = [] := by
    intro before u after
    rw [likeRegex, Regex.matches_start_iff, Regex.matches_append_iff]
    simp [matches_likeItems_iff, Regex.matches_finish_iff, Regex.matches_nil_iff, and_left_comm]
  constructor
  · rintro ⟨before, u, after, rfl, h⟩
    obtain ⟨h, rfl, rfl⟩ := (hends _ _ _).mp h
    rwa [List.nil_append, List.append_nil]
  · exact fun h => ⟨[], w, [], by simp, (hends _ _ _).mpr ⟨h, rfl, rfl⟩⟩

end Items

section Splitting

variable {c : Char} {p q : List Char}

theorem unpaired_cons_iff (hc : c ≠ '\\') : Unpaired (c :: p) ↔ Unpaired p := by
  rw [Unpaired, Unpaired, List.reverse_cons, List.takeWhile_append]
  split
  · next hall => simp [hc, hall]
  · rfl

/-- An escape takes two characters, so it leaves what comes after it as it is. -/
theorem unpaired_escape_iff : Unpaired ('\\' :: c :: p) ↔ Unpaired p := by
  rw [Unpaired, Unpaired, List.reverse_cons, List.reverse_cons, List.append_assoc,
    List.takeWhile_append]
  split
  · next hall =>
    by_cases hc : c = '\\'
    · simp [hc, hall, Nat.odd_add]
    · simp [hc, hall]
  · rfl

theorem likeItems_append (hp : ¬ Unpaired p) : likeItems (p ++ q) = likeItems p ++ likeItems q := by
  induction p using token_induction with
  | empty => rfl
  | run p ih =>
    rw [unpaired_cons_iff (by decide)] at hp
    rw [List.cons_append, likeItems_run, likeItems_run, ih hp, List.cons_append]
  | one p ih =>
    rw [unpaired_cons_iff (by decide)] at hp
    rw [List.cons_append, likeItems_one, likeItems_one, ih hp, List.cons_append]
  | escaped c p ih =>
    rw [unpaired_escape_iff] at hp
    rw [List.cons_append, List.cons_append, likeItems_escaped, likeItems_escaped, ih hp,
      List.cons_append]
  | lone => exact absurd (by decide) hp
  | char c p hrun hone hslash ih =>
    rw [unpaired_cons_iff hslash] at hp
    rw [List.cons_append, likeItems_char hrun hone hslash, likeItems_char hrun hone hslash, ih hp,
      List.cons_append]

theorem like_append_iff {w : List Char} (hp : ¬ Unpaired p) :
    Like (p ++ q) w ↔ ∃ u v, w = u ++ v ∧ Like p u ∧ Like q v := by
  have hmatches := @matches_likeItems_iff (p ++ q) w [] []
  rw [likeItems_append hp, Regex.matches_append_iff] at hmatches
  simpa only [matches_likeItems_iff] using hmatches.symm

end Splitting

namespace LikePattern

/-- The expression of the pattern is small enough. -/
def Compiles (fits : Regex → Bool) (p : String) : Prop := compile fits (some p) ≠ never

section Compiling

variable {fits : Regex → Bool} {p q : String}

theorem compile_some (fits : Regex → Bool) (p : String) :
    compile fits (some p) =
      if fits (likeRegex p.toList) then regex (likeRegex p.toList) else never := by
  rw [compile, read_likeSource, Option.filter_some]
  split <;> rfl

theorem compiles_iff : Compiles fits p ↔ fits (likeRegex p.toList) = true := by
  rw [Compiles, compile_some]
  split <;> simp_all

theorem isMatch_iff_like (hp : Compiles fits p) (w : String) :
    (compile fits (some p)).isMatch w = true ↔ Like p.toList w.toList := by
  rw [compile_some, if_pos (compiles_iff.mp hp), isMatch, Regex.isMatch_iff_finds,
    finds_likeRegex_iff]

theorem isMatch_append_iff (hp : Compiles fits p) (hq : Compiles fits q)
    (hboth : Compiles fits (p ++ q)) (hpaired : ¬ Unpaired p.toList) (w : String) :
    (compile fits (some (p ++ q))).isMatch w = true ↔
      ∃ u v, w = u ++ v ∧ (compile fits (some p)).isMatch u = true ∧
        (compile fits (some q)).isMatch v = true := by
  simp only [isMatch_iff_like hp, isMatch_iff_like hq, isMatch_iff_like hboth,
    String.toList_append, like_append_iff hpaired]
  constructor
  · rintro ⟨u, v, hw, hu, hv⟩
    refine ⟨.ofList u, .ofList v, ?_, by rwa [String.toList_ofList], by rwa [String.toList_ofList]⟩
    rw [← String.toList_inj, String.toList_append, String.toList_ofList, String.toList_ofList, hw]
  · rintro ⟨u, v, rfl, hu, hv⟩
    exact ⟨u.toList, v.toList, String.toList_append, hu, hv⟩

/-- Parts of a pattern are not too large if the whole is not. -/
theorem compiles_of_append (hpaired : ¬ Unpaired p.toList)
    (h : Compiles Regex.isSmall (p ++ q)) :
    Compiles Regex.isSmall p ∧ Compiles Regex.isSmall q := by
  simp only [compiles_iff, String.toList_append, likeRegex, likeItems_append hpaired,
    Regex.isSmall, Regex.weight_eq, List.map_cons, List.map_append, List.sum_cons,
    List.sum_append, Bool.and_eq_true, decide_eq_true_eq] at h ⊢
  omega

end Compiling

end LikePattern

open LikePattern

/-- A pattern is turned into an expression that matches the texts that the pattern describes. So a
pattern matches these, whatever the limit on the size of expressions, and patterns one after the
other match texts one after the other. -/
theorem texts_of_like_pattern (p q w : String) :
    (∃ r, Regex.read? (likeSource p.toList) = some r ∧
      ∀ text, r.Finds text ↔ Like p.toList text) ∧
    (∀ fits : Regex → Bool,
      (compile fits none).isMatch w = true ∧
      (Compiles fits p →
        ((compile fits (some p)).isMatch w = true ↔ Like p.toList w.toList)) ∧
      (Compiles fits p → Compiles fits q → Compiles fits (p ++ q) → ¬ Unpaired p.toList →
        ((compile fits (some (p ++ q))).isMatch w = true ↔
          ∃ u v, w = u ++ v ∧ (compile fits (some p)).isMatch u = true ∧
            (compile fits (some q)).isMatch v = true))) ∧
    likeMatches none w = true ∧
    (Compiles Regex.isSmall p → (likeMatches (some p) w = true ↔ Like p.toList w.toList)) ∧
    (Compiles Regex.isSmall (p ++ q) → ¬ Unpaired p.toList →
      (likeMatches (some (p ++ q)) w = true ↔
        ∃ u v, w = u ++ v ∧ likeMatches (some p) u = true ∧ likeMatches (some q) v = true)) := by
  refine ⟨⟨_, read_likeSource _, fun _ => finds_likeRegex_iff⟩,
    fun fits => ⟨rfl, fun hp => isMatch_iff_like hp w, ?_⟩, rfl,
    fun hp => isMatch_iff_like hp w, fun hboth hpaired => ?_⟩
  · exact fun hp hq hboth hpaired => isMatch_append_iff hp hq hboth hpaired w
  · obtain ⟨hp, hq⟩ := compiles_of_append hpaired hboth
    exact isMatch_append_iff hp hq hboth hpaired w

/-- An escaped backslash before a run, an escaped percent sign and a backslash at the end. -/
theorem texts_of_escaped_pattern :
    Like ['a', '\\', '\\', '%'] ['a', '\\', '\n', 'b'] ∧
      likeSource "a\\\\%_.".toList = "(?s)^a\\\\.*.\\.$".toList ∧
      ∃ u v, "a\\\nb%é" = u ++ v ∧ likeMatches (some "a\\\\%") u = true ∧
        likeMatches (some "\\%_\\") v = true := by
  have hmatches := texts_of_like_pattern "a\\\\%" "" "a\\\nb"
  have hsplit := texts_of_like_pattern "a\\\\%" "\\%_\\" "a\\\nb%é"
  exact ⟨(hmatches.2.2.2.1 (compiles_iff.mpr (by decide +kernel))).mp (by decide +kernel),
    by decide +kernel,
    (hsplit.2.2.2.2 (compiles_iff.mpr (by decide +kernel)) (by decide +kernel)).mp
      (by decide +kernel)⟩

end KeyspaceLink
