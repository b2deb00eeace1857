import Mathlib
import KeyspaceLink.Link.Url
import KeyspaceLink.Proofs.PercentEscapes

/-! Paths put after the name of a server. The address is read as that of the server, whatever the
path is, and the path as its segments, where those of dots do not stand. -/

namespace KeyspaceLink.Url

/-- What names a server after the scheme: nothing in it begins a path, a query or a fragment. -/
def AuthorityText (s : List Char) : Prop :=
  s ≠ [] ∧ ∀ c ∈ s, 0x20 < c.toNat ∧ c ∉ ['/', '\\', '?', '#']

/-- A scheme of requests and a server. -/
def IsServer (base : String) : Prop :=
  ∃ scheme ∈ ["http", "https"], ∃ s, AuthorityText s ∧ base = scheme ++ "://" ++ .ofList s

/-- A path and a query after a server, as one text. -/
def rest (path : List Char) : Option (List Char) → List Char
  | some query => path ++ '?' :: query
  | none => path

/-- Leads, on every server, to the resource with these segments. -/
def LeadsTo (path : String) (names : List String) : Prop :=
  ∀ base, IsServer base → ∃ query, read? (base ++ path) =
    (read? base).map fun u => { u with path := .segments names, query }

/-- Stands for itself between the slashes of a path. -/
structure PlainSegment (p : List Char) : Prop where
  kept : ∀ c ∈ p, c.toNat < 128 ∧ keptInPath (UInt8.ofNat c.toNat) = true ∧ isSlash c = false
  not_dot : isOneDot p = false
  not_dots : isTwoDots p = false

section Reading

variable {scheme : String} {s path : List Char} {query : Option (List Char)}

theorem withoutControls_eq (h : ∀ c ∈ s, 0x20 < c.toNat) : withoutControls s = s := by
  have hedge : ∀ {s : List Char}, (∀ c ∈ s, 0x20 < c.toNat) →
      s.dropWhile (fun c => decide (c.toNat ≤ 0x20)) = s := by
    intro s h
    cases s with
    | nil => rfl
    | cons c s =>
      have hc := h c List.mem_cons_self
      exact List.dropWhile_cons_of_neg (by simpa using hc)
  have hback : ∀ c ∈ s.reverse, 0x20 < c.toNat := fun c hc => h c (List.mem_reverse.mp hc)
  simp only [withoutControls, hedge h, hedge hback, List.reverse_reverse]
  refine List.filter_eq_self.mpr fun c hc => ?_
  have hc := h c hc
  have hne : c ≠ '\t' ∧ c ≠ '\n' ∧ c ≠ '\r' := by
    refine ⟨?_, ?_, ?_⟩ <;> rintro rfl <;> exact absurd hc (by decide)
  simp [hne]

theorem scheme?_server (hscheme : scheme ∈ ["http", "https"]) (r : List Char) :
    scheme? (scheme.toList ++ ':' :: r) = some (scheme, r) := by
  have hcut : cutFirst? ':' (scheme.toList ++ ':' :: r) = some (scheme.toList, r) := by
    refine cutFirst?_append ?_ r
    fin_cases hscheme <;> decide
  rw [scheme?, hcut]
  fin_cases hscheme <;> rfl

/-- The server ends where the path begins. -/
theorem readRest?_server (hscheme : scheme ∈ ["http", "https"]) (hs : AuthorityText s)
    (hstart : ∀ c ∈ path.head?, c = '/') :
    readRest? scheme ('/' :: '/' :: (s ++ path)) = (readAuthority? scheme s).map fun a =>
      (some a, .segments (readSegments true (path.drop 1))) := by
  have hfile : (scheme == "file") = false := by fin_cases hscheme <;> rfl
  have hspecial : isSpecial scheme = true := by fin_cases hscheme <;> rfl
  have hslash : ∀ c ∈ s, isSlash c = false := by
    intro c hc
    have hmark := (hs.2 c hc).2
    simp only [List.mem_cons, not_or] at hmark
    simp [isSlash, hmark]
  obtain ⟨c, s', rfl⟩ := List.exists_cons_of_ne_nil hs.1
  have hfirst := hslash c List.mem_cons_self
  have hdrop : ('/' :: '/' :: (c :: s' ++ path)).dropWhile isSlash = c :: s' ++ path := by
    rw [List.dropWhile_cons_of_pos rfl, List.dropWhile_cons_of_pos rfl]
    exact List.dropWhile_cons_of_neg (by simp [hfirst])
  have hrun : ∀ d ∈ path.head?, (!isSlash d) = false := by
    intro d hd
    rw [hstart d hd]
    rfl
  have hname : ∀ d ∈ c :: s', (!isSlash d) = true := fun d hd => by simp [hslash d hd]
  obtain ⟨htake, hpath⟩ := takeWhile_run hname hrun
  simp only [readRest?, hfile, Bool.false_eq_true, if_false, hspecial, if_true, hdrop, htake, hpath]
  cases readAuthority? scheme (c :: s') <;> rfl

theorem lacksHost_server (hs : AuthorityText s) (hat : s ≠ ['@']) :
    lacksHost ('/' :: '/' :: (s ++ path)) = false := by
  obtain ⟨c, s', rfl⟩ := List.exists_cons_of_ne_nil hs.1
  by_cases hc : c = '@'
  · subst hc
    cases s' with
    | nil => exact absurd rfl hat
    | cons d s' =>
      have hmark := (hs.2 d (by simp)).2
      simp only [List.mem_cons, not_or] at hmark
      simp [lacksHost, dropStart?, hmark]
  · simp [lacksHost, dropStart?, hc]

theorem readAuthority?_at (hscheme : scheme ∈ ["http", "https"]) :
    readAuthority? scheme ['@'] = none := by
  fin_cases hscheme <;> rfl

theorem splitAt_of_not_mem {mark : Char} (h : mark ∉ s) : splitAt mark s = (s, none) := by
  rw [splitAt, cutFirst?_eq_none_iff.mpr h]

theorem splitAt_append {mark : Char} (h : mark ∉ s) (r : List Char) :
    splitAt mark (s ++ mark :: r) = (s, some r) := by
  rw [splitAt, cutFirst?_append h]

theorem mem_rest_iff {c : Char} :
    c ∈ rest path query ↔ c ∈ path ∨ ∃ q ∈ query, c = '?' ∨ c ∈ q := by
  cases query <;> simp [rest]

theorem read?_server (path : List Char) (query : Option (List Char))
    (hscheme : scheme ∈ ["http", "https"]) (hs : AuthorityText s)
    (hstart : ∀ c ∈ path.head?, c = '/') (hpath : ∀ c ∈ path, 0x20 < c.toNat ∧ c ∉ ['?', '#'])
    (hquery : ∀ q ∈ query, ∀ c ∈ q, 0x20 < c.toNat ∧ c ≠ '#') :
    read? (scheme ++ "://" ++ .ofList (s ++ rest path query)) =
      (readAuthority? scheme s).map fun a =>
        { scheme
          authority := some a
          path := .segments (readSegments true (path.drop 1))
          query := query.map (escaped (keptInQuery true))
          fragment := none } := by
  have hscheme' : ∀ c ∈ scheme.toList, 0x20 < c.toNat := by
    fin_cases hscheme <;> simp
  have hmarks : ∀ c ∈ "://".toList, 0x20 < c.toNat := by simp
  have htext : withoutControls (scheme ++ "://" ++ .ofList (s ++ rest path query)).toList =
      scheme.toList ++ ':' :: '/' :: '/' :: (s ++ rest path query) := by
    rw [withoutControls_eq]
    · simp
    · intro c hc
      simp only [String.toList_append, String.toList_ofList, List.mem_append, mem_rest_iff] at hc
      rcases hc with (hc | hc) | hc | hc | ⟨q, hq, rfl | hc⟩
      · exact hscheme' c hc
      · exact hmarks c hc
      · exact (hs.2 c hc).1
      · exact (hpath c hc).1
      · decide
      · exact (hquery q hq c hc).1
  have hfragment : '#' ∉ '/' :: '/' :: (s ++ rest path query) := by
    intro hmem
    simp only [List.mem_cons, List.mem_append, mem_rest_iff] at hmem
    rcases hmem with hmem | hmem | hmem | hmem | ⟨q, hq, hmem | hmem⟩
    · cases hmem
    · cases hmem
    · exact (hs.2 _ hmem).2 (by simp)
    · exact (hpath _ hmem).2 (by simp)
    · cases hmem
    · exact (hquery q hq _ hmem).2 rfl
  have hquestion : '?' ∉ '/' :: '/' :: (s ++ path) := by
    intro hmem
    simp only [List.mem_cons, List.mem_append] at hmem
    rcases hmem with hmem | hmem | hmem | hmem
    · cases hmem
    · cases hmem
    · exact (hs.2 _ hmem).2 (by simp)
    · exact (hpath _ hmem).2 (by simp)
  have hsplit : splitAt '?' ('/' :: '/' :: (s ++ rest path query)) =
      ('/' :: '/' :: (s ++ path), query) := by
    cases query with
    | none => exact splitAt_of_not_mem hquestion
    | some q =>
      rw [rest, ← List.append_assoc, ← List.cons_append, ← List.cons_append]
      exact splitAt_append hquestion q
  have hspecial : isSpecial scheme = true := by fin_cases hscheme <;> rfl
  cases hlacks : lacksHost ('/' :: '/' :: (s ++ rest path query)) with
  | true =>
    -- an empty user before no host, which is no server without a path either
    have hat : s = ['@'] := by
      by_contra hat
      rw [lacksHost_server hs hat] at hlacks
      cases hlacks
    rw [read?, htext, scheme?_server hscheme, Option.filter_some, hlacks, hat,
      readAuthority?_at hscheme]
    rfl
  | false =>
    rw [read?, htext, scheme?_server hscheme, Option.filter_some, hlacks]
    simp only [Bool.not_false, if_true, Option.bind_eq_bind, Option.bind_some,
      splitAt_of_not_mem hfragment, hsplit, readRest?_server hscheme hs hstart, hspecial]
    cases readAuthority? scheme s <;> rfl

end Reading

section Segments

variable {p : List Char} {ps : List (List Char)} {done : List String}

theorem segmentsFrom_of_no_dots (hne : ps ≠ [])
    (h : ∀ p ∈ ps, isOneDot p = false ∧ isTwoDots p = false) :
    segmentsFrom done ps = done.reverse ++ ps.map (escaped keptInPath) := by
  induction ps generalizing done with
  | nil => exact absurd rfl hne
  | cons p ps ih =>
    obtain ⟨⟨hone, htwo⟩, hrest⟩ := List.forall_mem_cons.mp h
    cases ps with
    | nil => simp [segmentsFrom, hone, htwo]
    | cons q ps =>
      rw [segmentsFrom, htwo, hone]
      simp [ih (List.cons_ne_nil q ps) hrest]

theorem escaped_of_kept {keep : UInt8 → Bool}
    (h : ∀ c ∈ p, c.toNat < 128 ∧ keep (UInt8.ofNat c.toNat) = true) :
    escaped keep p = .ofList p := by
  have hescape : escapeText keep p = p := by
    induction p with
    | nil => rfl
    | cons c p ih =>
      obtain ⟨⟨hascii, hkeep⟩, hrest⟩ := List.forall_mem_cons.mp h
      have hc : escapeOctet keep (UInt8.ofNat c.toNat) = [c] := by
        rw [escapeOctet, if_pos hkeep, toNat_octet (by omega), Char.ofNat_toNat]
      have hstep : escapeText keep (c :: p) =
          escapeOctet keep (UInt8.ofNat c.toNat) ++ escapeText keep p := by
        simp [escapeText, octets, utf8EncodeChar_of_lt hascii]
      rw [hstep, hc, ih hrest]
      rfl
  rw [escaped, hescape]

theorem readSegments_intercalate (hne : ps ≠ []) (h : ∀ p ∈ ps, PlainSegment p) :
    readSegments true (List.intercalate ['/'] ps) = ps.map .ofList := by
  have hpieces : pieces isSlash (List.intercalate ['/'] ps) = ps :=
    pieces_intercalate rfl hne fun p hp c hc => ((h p hp).kept c hc).2.2
  have hdots : ∀ p ∈ ps, isOneDot p = false ∧ isTwoDots p = false :=
    fun p hp => ⟨(h p hp).not_dot, (h p hp).not_dots⟩
  rw [readSegments, if_pos rfl, hpieces, segmentsFrom_of_no_dots hne hdots]
  refine List.map_congr_left fun p hp => escaped_of_kept fun c hc => ?_
  obtain ⟨hascii, hkept, -⟩ := (h p hp).kept c hc
  exact ⟨hascii, hkept⟩

end Segments

theorem leadsTo_rest {path : List Char} {query : Option (List Char)}
    (hpath : ∀ c ∈ path, 0x20 < c.toNat ∧ c ∉ ['?', '#'])
    (hquery : ∀ q ∈ query, ∀ c ∈ q, 0x20 < c.toNat ∧ c ≠ '#') :
    LeadsTo (.ofList (rest ('/' :: path) query)) (readSegments true path) := by
  rintro base ⟨scheme, hscheme, s, hs, rfl⟩
  have hslash : ∀ c ∈ '/' :: path, 0x20 < c.toNat ∧ c ∉ ['?', '#'] :=
    List.forall_mem_cons.mpr ⟨by decide, hpath⟩
  have hfull := read?_server _ query hscheme hs (by simp) hslash hquery
  have hbase := read?_server [] none hscheme hs (by simp) (by simp) (by simp)
  rw [rest, List.append_nil] at hbase
  refine ⟨query.map (escaped (keptInQuery true)), ?_⟩
  rw [String.append_assoc, ← String.ofList_append, hfull, hbase, Option.map_map]
  rfl

theorem visible_of_keptInPath {c : Char} (hascii : c.toNat < 128)
    (h : keptInPath (UInt8.ofNat c.toNat) = true) : 0x20 < c.toNat ∧ c ∉ ['?', '#'] := by
  have hnat : (UInt8.ofNat c.toNat).toNat = c.toNat := toNat_octet (by omega)
  simp only [keptInPath, kept, Bool.and_eq_true, decide_eq_true_eq, UInt8.lt_iff_toNat_lt, hnat,
    Char.ofNat_toNat, Bool.not_eq_true', List.contains_eq_mem, decide_eq_false_iff_not,
    List.mem_cons, List.not_mem_nil, or_false, not_or] at h
  exact ⟨h.1.1, by simp [h]⟩

theorem leadsTo_names (ps : List (List Char)) (query : Option (List Char)) (hne : ps ≠ [])
    (h : ∀ p ∈ ps, PlainSegment p) (hquery : ∀ q ∈ query, ∀ c ∈ q, 0x20 < c.toNat ∧ c ≠ '#') :
    LeadsTo (.ofList (rest ('/' :: List.intercalate ['/'] ps) query)) (ps.map .ofList) := by
  have hpath : ∀ c ∈ List.intercalate ['/'] ps, 0x20 < c.toNat ∧ c ∉ ['?', '#'] := by
    intro c hc
    rcases mem_intercalate hc with rfl | ⟨p, hp, hc⟩
    · decide
    · obtain ⟨hascii, hkept, -⟩ := (h p hp).kept c hc
      exact visible_of_keptInPath hascii hkept
  rw [← readSegments_intercalate hne h]
  exact leadsTo_rest hpath hquery

end KeyspaceLink.Url
