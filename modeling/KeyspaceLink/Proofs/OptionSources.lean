import KeyspaceLink.Proofs.ConnectionString

/-! Where the value of an option comes from: of a link, its text told part by part, and of an
overlay on top of it. -/

namespace KeyspaceLink

section LastValue

variable {name value : String} {pairs : List (String × String)}

theorem lastValue?_eq_some_iff : lastValue? name pairs = some value ↔
    ∃ before after, pairs = before ++ (name, value) :: after ∧ ∀ p ∈ after, p.1 ≠ name := by
  rw [lastValue?, List.lookup_eq_some_iff]
  constructor
  · rintro ⟨after, before, heq, hafter⟩
    refine ⟨before.reverse, after.reverse, ?_, fun p hp => ?_⟩
    · rw [← List.reverse_reverse pairs, heq]
      simp
    · have hne := hafter p (List.mem_reverse.mp hp)
      exact fun he => by simp [he] at hne
  · rintro ⟨before, after, rfl, hafter⟩
    refine ⟨after.reverse, before.reverse, by simp, fun p hp => ?_⟩
    rw [bne_iff_ne]
    exact (hafter p (List.mem_reverse.mp hp)).symm

theorem lastValue?_eq_none_iff : lastValue? name pairs = none ↔ ∀ p ∈ pairs, p.1 ≠ name := by
  rw [lastValue?, List.lookup_eq_none_iff]
  constructor
  · intro h p hp
    exact (bne_iff_ne.mp (h p (List.mem_reverse.mpr hp))).symm
  · intro h p hp
    exact bne_iff_ne.mpr (h p (List.mem_reverse.mp hp)).symm

variable {α : Type} {l : List α} {read : α → Option (String × String)}

theorem forall_filterMap_iff : (∀ p ∈ l.filterMap read, p.1 ≠ name) ↔
    ∀ a ∈ l, ∀ v, read a ≠ some (name, v) := by
  simp only [List.mem_filterMap]
  constructor
  · intro h a ha v hread
    exact h _ ⟨a, ha, hread⟩ rfl
  · rintro h p ⟨a, ha, hread⟩ hname
    exact h a ha p.2 (by rw [hread, ← hname])

theorem lastValue?_filterMap_eq_some_iff : lastValue? name (l.filterMap read) = some value ↔
    ∃ before a after, l = before ++ a :: after ∧ read a = some (name, value) ∧
      ∀ b ∈ after, ∀ v, read b ≠ some (name, v) := by
  rw [lastValue?_eq_some_iff]
  constructor
  · rintro ⟨before, after, heq, hafter⟩
    obtain ⟨l₁, l₂, rfl, rfl, hrest⟩ := List.filterMap_eq_append_iff.mp heq
    obtain ⟨skipped, a, l₃, rfl, -, hread, rfl⟩ := List.filterMap_eq_cons_iff.mp hrest
    exact ⟨l₁ ++ skipped, a, l₃, (List.append_assoc ..).symm, hread,
      forall_filterMap_iff.mp hafter⟩
  · rintro ⟨before, a, after, rfl, hread, hafter⟩
    refine ⟨before.filterMap read, after.filterMap read, ?_, forall_filterMap_iff.mpr hafter⟩
    rw [List.filterMap_append, List.filterMap_cons_some hread]

end LastValue

section Placing

theorem lookup_cons_eq {α : Type} {name : String} {pairs : List (String × α)} (p : String × α) :
    (p :: pairs).lookup name = if name = p.1 then some p.2 else pairs.lookup name := by
  rw [List.lookup_cons]
  by_cases hname : name = p.1
  · rw [if_pos hname, beq_iff_eq.mpr hname]
  · rw [if_neg hname, beq_eq_false_iff_ne.mpr hname]

variable {name : String} {pairs : List (String × String)}

theorem lookup_place (key value : String) :
    (place key value pairs).lookup name = if name = key then some value else pairs.lookup name := by
  induction pairs with
  | nil => exact lookup_cons_eq (key, value)
  | cons p pairs ih =>
    rw [place]
    split
    · next hkey =>
      rw [lookup_cons_eq, lookup_cons_eq, eq_of_beq hkey]
      by_cases hname : name = p.1
      · rw [if_pos hname, if_pos hname]
      · rw [if_neg hname, if_neg hname, if_neg hname]
    split
    · exact lookup_cons_eq (key, value)
    · next hkey _ =>
      rw [lookup_cons_eq, lookup_cons_eq, ih]
      by_cases hname : name = p.1
      · have hne : name ≠ key := fun h => hkey (beq_iff_eq.mpr (h.symm.trans hname))
        rw [if_pos hname, if_neg hne, if_pos hname]
      · rw [if_neg hname, if_neg hname]

theorem lastValue?_cons (p : String × String) : lastValue? name (p :: pairs) =
    (lastValue? name pairs).or (if name = p.1 then some p.2 else none) := by
  rw [lastValue?, lastValue?, List.reverse_cons, List.lookup_append, lookup_cons_eq,
    List.lookup_nil]

theorem lookup_sorted : (sorted pairs).lookup name = lastValue? name pairs := by
  have hfold : ∀ done : List (String × String),
      (pairs.foldl (fun done p => place p.1 p.2 done) done).lookup name =
        (lastValue? name pairs).or (done.lookup name) := by
    induction pairs with
    | nil =>
      intro done
      rfl
    | cons p pairs ih =>
      intro done
      rw [List.foldl_cons, ih, lookup_place, lastValue?_cons, Option.or_assoc]
      split <;> rfl
  exact (hfold []).trans Option.or_none

theorem lastValue?_filter {keep : String × String → Bool} (h : ∀ v, keep (name, v) = true) :
    lastValue? name (pairs.filter keep) = lastValue? name pairs := by
  induction pairs with
  | nil => rfl
  | cons p pairs ih =>
    rw [List.filter_cons, lastValue?_cons]
    by_cases hname : name = p.1
    · have hp : keep p = true := by
        have hkeep := h p.2
        rwa [hname] at hkeep
      rw [if_pos hp, lastValue?_cons, ih]
    · rw [if_neg hname, Option.or_none]
      split
      · rw [lastValue?_cons, if_neg hname, Option.or_none, ih]
      · exact ih

theorem lookup_eq_some_iff_mem {α : Type} {pairs : List (String × α)}
    (h : pairs.Pairwise fun p q => p.1 ≠ q.1) {value : α} :
    pairs.lookup name = some value ↔ (name, value) ∈ pairs := by
  constructor
  · intro hlookup
    obtain ⟨before, after, rfl, -⟩ := List.lookup_eq_some_iff.mp hlookup
    exact List.mem_append_right _ List.mem_cons_self
  · intro hmem
    obtain ⟨before, after, rfl⟩ := List.append_of_mem hmem
    refine List.lookup_eq_some_iff.mpr ⟨before, after, rfl, fun p hp => ?_⟩
    have hne : p.1 ≠ name := (List.pairwise_append.mp h).2.2 p hp _ List.mem_cons_self
    exact bne_iff_ne.mpr hne.symm

end Placing

/-- The elements of an options part stand between ampersands and semicolons. -/
inductive Elements : List (List Char) → List Char → Prop
  | last {e : List Char} (h : ∀ c ∈ e, c ≠ '&' ∧ c ≠ ';') : Elements [e] e
  | more {e s : List Char} {es : List (List Char)} {c : Char} (h : ∀ c ∈ e, c ≠ '&' ∧ c ≠ ';')
      (hc : c = '&' ∨ c = ';') (hs : Elements es s) : Elements (e :: es) (e ++ c :: s)

theorem isMark_eq_false_iff {c : Char} : (c == '&' || c == ';') = false ↔ c ≠ '&' ∧ c ≠ ';' := by
  rw [Bool.or_eq_false_iff, beq_eq_false_iff_ne, beq_eq_false_iff_ne]

theorem Elements.pieces_eq {es : List (List Char)} {s : List Char} (h : Elements es s) :
    pieces (fun c => c == '&' || c == ';') s = es := by
  induction h with
  | last he => exact pieces_of_none fun c hc => isMark_eq_false_iff.mpr (he c hc)
  | more he hc _ ih =>
    rw [pieces_append (fun c hc => isMark_eq_false_iff.mpr (he c hc)) (by simpa using hc), ih]

theorem exists_elements (s : List Char) : ∃ es, Elements es s := by
  induction s with
  | nil => exact ⟨[[]], .last (by simp)⟩
  | cons c s ih =>
    obtain ⟨es, hes⟩ := ih
    by_cases hc : c = '&' ∨ c = ';'
    · exact ⟨[] :: es, .more (List.forall_mem_nil _) hc hes⟩
    · have hplain : ∀ e : List Char, (∀ d ∈ e, d ≠ '&' ∧ d ≠ ';') →
          ∀ d ∈ c :: e, d ≠ '&' ∧ d ≠ ';' := by
        intro e he
        exact List.forall_mem_cons.mpr ⟨not_or.mp hc, he⟩
      cases hes with
      | last he => exact ⟨[c :: s], .last (hplain s he)⟩
      | more he hd hs => exact ⟨_ :: _, .more (hplain _ he) hd hs⟩

theorem elements_iff {es : List (List Char)} {s : List Char} :
    Elements es s ↔ pieces (fun c => c == '&' || c == ';') s = es := by
  refine ⟨Elements.pieces_eq, fun h => ?_⟩
  obtain ⟨es', hes'⟩ := exists_elements s
  rwa [← h, hes'.pieces_eq]

/-- A pair has a name before its first equals sign and a value after it, both with escapes. -/
def IsPair (name value : String) (element : List Char) : Prop :=
  ∃ key text, '=' ∉ key ∧ element = key ++ '=' :: text ∧
    sameIgnoringCase (readComponent key) name = true ∧ value = readComponent text

def LastWritten (name value : String) (options : List Char) : Prop :=
  ∃ before element after, Elements (before ++ element :: after) options ∧
    IsPair name value element ∧ ∀ e ∈ after, ∀ v, ¬ IsPair name v e

def Unwritten (name : String) (options : List Char) : Prop :=
  ∃ es, Elements es options ∧ ∀ e ∈ es, ∀ v, ¬ IsPair name v e

/-- An overlay comes first, then the last pair of the options part. -/
inductive Given (overlay : Overlay) (options : Option (List Char)) (name : String) :
    Option String → Prop
  | overlaid {key value : String} (h : (key, value) ∈ overlay)
      (hkey : sameIgnoringCase key name = true) : Given overlay options name (some value)
  | written {value : String} {s : List Char}
      (hnone : ∀ p ∈ overlay, sameIgnoringCase p.1 name = false) (hs : options = some s)
      (h : LastWritten name value s) : Given overlay options name (some value)
  | unset (hnone : ∀ p ∈ overlay, sameIgnoringCase p.1 name = false)
      (h : ∀ s ∈ options, Unwritten name s) : Given overlay options name none

def readElement (element : List Char) : Option (String × String) :=
  (cutFirst? '=' element).map fun p => (lower (readComponent p.1), readComponent p.2)

theorem readOptions_eq {es : List (List Char)} {s : List Char} (h : Elements es s) :
    readOptions s = es.filterMap readElement := by
  rw [readOptions, h.pieces_eq]
  rfl

theorem isPair_iff {name value : String} {element : List Char} :
    IsPair name value element ↔ readElement element = some (lower name, value) := by
  rw [readElement, Option.map_eq_some_iff]
  constructor
  · rintro ⟨key, text, hkey, rfl, hname, rfl⟩
    exact ⟨(key, text), cutFirst?_append hkey text, by rw [eq_of_beq hname]⟩
  · rintro ⟨⟨key, text⟩, hcut, heq⟩
    obtain ⟨hname, hvalue⟩ := Prod.mk.inj heq
    exact ⟨key, text, not_mem_of_cutFirst? hcut, cutFirst?_eq_some hcut, beq_iff_eq.mpr hname,
      hvalue.symm⟩

theorem lastWritten_iff {name value : String} {s : List Char} :
    LastWritten name value s ↔ lastValue? (lower name) (readOptions s) = some value := by
  obtain ⟨es, hes⟩ := exists_elements s
  rw [readOptions_eq hes, lastValue?_filterMap_eq_some_iff]
  simp only [LastWritten, isPair_iff]
  constructor
  · rintro ⟨before, element, after, helements, hpair, hafter⟩
    exact ⟨before, element, after, hes.pieces_eq.symm.trans helements.pieces_eq, hpair, hafter⟩
  · rintro ⟨before, element, after, rfl, hpair, hafter⟩
    exact ⟨before, element, after, hes, hpair, hafter⟩

theorem unwritten_iff {name : String} {s : List Char} :
    Unwritten name s ↔ lastValue? (lower name) (readOptions s) = none := by
  obtain ⟨es, hes⟩ := exists_elements s
  rw [readOptions_eq hes, lastValue?_eq_none_iff, forall_filterMap_iff]
  simp only [Unwritten, isPair_iff]
  constructor
  · rintro ⟨es', hes', hnone⟩
    obtain rfl : es = es' := hes.pieces_eq.symm.trans hes'.pieces_eq
    exact hnone
  · intro hnone
    exact ⟨es, hes, hnone⟩

def DistinctKeys (overlay : Overlay) : Prop :=
  overlay.Pairwise fun p q => sameIgnoringCase p.1 q.1 = false

def folded (overlay : Overlay) : List (String × String) := overlay.map fun p => (lower p.1, p.2)

section Overlays

variable {overlay : Overlay} {name value : String}

theorem lastValue?_folded_eq_none_iff : lastValue? (lower name) (folded overlay) = none ↔
    ∀ p ∈ overlay, sameIgnoringCase p.1 name = false := by
  rw [lastValue?_eq_none_iff, folded, List.forall_mem_map]
  exact forall₂_congr fun p _ => beq_eq_false_iff_ne.symm

theorem mem_of_lastValue?_folded (h : lastValue? (lower name) (folded overlay) = some value) :
    ∃ key, (key, value) ∈ overlay ∧ sameIgnoringCase key name = true := by
  obtain ⟨before, after, heq, -⟩ := lastValue?_eq_some_iff.mp h
  have hmem : (lower name, value) ∈ folded overlay := by simp [heq]
  obtain ⟨⟨key, w⟩, hp, hpair⟩ := List.mem_map.mp hmem
  obtain ⟨hkey, rfl⟩ := Prod.mk.inj hpair
  exact ⟨key, hp, beq_iff_eq.mpr hkey⟩

theorem lastValue?_folded_of_mem (hkeys : DistinctKeys overlay) {key : String}
    (hmem : (key, value) ∈ overlay) (hkey : sameIgnoringCase key name = true) :
    lastValue? (lower name) (folded overlay) = some value := by
  obtain ⟨before, after, rfl⟩ := List.append_of_mem hmem
  have hafter : ∀ p ∈ after, sameIgnoringCase key p.1 = false :=
    (List.pairwise_cons.mp (List.pairwise_append.mp hkeys).2.1).1
  have hlower : lower key = lower name := eq_of_beq hkey
  rw [lastValue?_eq_some_iff]
  refine ⟨folded before, folded after, by simp [folded, hlower], ?_⟩
  rw [folded, List.forall_mem_map]
  intro p hp heq
  have hlower' : lower p.1 = lower name := heq
  have hne := hafter p hp
  rw [sameIgnoringCase, hlower, hlower', beq_self_eq_true] at hne
  cases hne

theorem find?_eq_iff_given (hkeys : DistinctKeys overlay) (options : Option (List Char))
    (name : String) (v : Option String) :
    Sources.find? ⟨overlay, (options.map readOptions).getD []⟩ name = v ↔
      Given overlay options name v := by
  have hfind : Sources.find? ⟨overlay, (options.map readOptions).getD []⟩ name =
      (lastValue? (lower name) (folded overlay)).or
        (lastValue? (lower name) ((options.map readOptions).getD [])) := rfl
  rw [hfind]
  constructor
  · rintro rfl
    cases hoverlay : lastValue? (lower name) (folded overlay) with
    | some value =>
      obtain ⟨key, hmem, hkey⟩ := mem_of_lastValue?_folded hoverlay
      exact .overlaid hmem hkey
    | none =>
      have hnone := lastValue?_folded_eq_none_iff.mp hoverlay
      cases options with
      | none => exact .unset hnone (by simp)
      | some s =>
        rw [Option.none_or, Option.map_some, Option.getD_some]
        cases hwritten : lastValue? (lower name) (readOptions s) with
        | some value => exact .written hnone rfl (lastWritten_iff.mpr hwritten)
        | none =>
          refine .unset hnone fun s' hs' => ?_
          obtain rfl := Option.some.inj hs'
          exact unwritten_iff.mpr hwritten
  · intro h
    cases h with
    | overlaid hmem hkey => rw [lastValue?_folded_of_mem hkeys hmem hkey, Option.some_or]
    | written hnone hs h =>
      subst hs
      rw [lastValue?_folded_eq_none_iff.mpr hnone, Option.none_or]
      exact lastWritten_iff.mp h
    | unset hnone h =>
      rw [lastValue?_folded_eq_none_iff.mpr hnone, Option.none_or]
      cases options with
      | none => rfl
      | some s => exact unwritten_iff.mp (h s rfl)

end Overlays

end KeyspaceLink
