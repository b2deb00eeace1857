import KeyspaceLink.Proofs.ClosedSessions
import KeyspaceLink.Proofs.LinkSettings
import KeyspaceLink.Proofs.ReadOnly
import KeyspaceLink.Proofs.Wording

/-! What a statement is sent as. The text is stripped of the blanks around it and of one
semicolon. Straight to the query service that happens once, but past the commands it happens
twice, so the two ways differ on texts that end with more semicolons than one. -/

namespace KeyspaceLink

/-- What a text is without the blanks around it and without one semicolon at its end. -/
inductive StatementText : List Char → List Char → Prop
  | plain {left t right : List Char} (hleft : ∀ c ∈ left, isBlank c = true) (ht : Trimmed t)
      (hend : t.getLast? ≠ some ';') (hright : ∀ c ∈ right, isBlank c = true) :
      StatementText (left ++ t ++ right) t
  | semicolon {left t gap right : List Char} (hleft : ∀ c ∈ left, isBlank c = true)
      (ht : Trimmed t) (hgap : ∀ c ∈ gap, isBlank c = true)
      (hright : ∀ c ∈ right, isBlank c = true) :
      StatementText (left ++ (t ++ gap ++ [';']) ++ right) t

section Trimming

variable {s inner : List Char}

theorem normalize_of_semicolon (h : trim s = inner ++ [';']) : normalize s = trimEnd inner := by
  rw [normalize, h, dropEnding?_eq_some_iff.mpr rfl]

theorem normalize_of_no_semicolon (h : (trim s).getLast? ≠ some ';') : normalize s = trim s := by
  rw [normalize]
  split
  · next inner hinner =>
    rw [dropEnding?_eq_some_iff.mp hinner] at h
    exact absurd List.getLast?_concat h
  · rfl

end Trimming

namespace StatementText

variable {s t : List Char}

theorem trimmed (h : StatementText s t) : Trimmed t := by
  cases h with
  | plain _ ht => exact ht
  | semicolon _ ht => exact ht

theorem normalize_eq (h : StatementText s t) : normalize s = t := by
  cases h with
  | plain hleft ht hend hright =>
    have htrim := trim_of_trimmed hleft ht hright
    rw [normalize_of_no_semicolon (by rwa [htrim]), htrim]
  | @semicolon left t gap right hleft ht hgap hright =>
    have hinner : trimEnd (t ++ gap) = t := trimEnd_append ht.2 hgap
    by_cases hne : t = []
    · subst hne
      -- Without a statement the blanks before the semicolon are at the start of the text.
      have hstart : ∀ c ∈ left ++ gap, isBlank c = true := by
        intro c hc
        exact (List.mem_append.mp hc).elim (hleft c) (hgap c)
      have htrim : trim (left ++ gap ++ [';'] ++ right) = [] ++ [';'] :=
        trim_of_trimmed hstart (by simp [Trimmed, isBlank]) hright
      rw [List.nil_append, ← List.append_assoc left gap, normalize_of_semicolon htrim]
      rfl
    · have hcore : Trimmed (t ++ gap ++ [';']) := by
        refine ⟨?_, by simp [isBlank]⟩
        rw [List.append_assoc, List.head?_append_of_ne_nil _ hne]
        exact ht.1
      rw [normalize_of_semicolon (trim_of_trimmed hleft hcore hright), hinner]

theorem of_normalize (s : List Char) : StatementText s (normalize s) := by
  obtain ⟨left, right, hs, hleft, hright⟩ := exists_blanks s
  have htrim := trimmed_trim s
  by_cases hend : (trim s).getLast? = some ';'
  · obtain ⟨inner, hinner⟩ := List.getLast?_eq_some_iff.mp hend
    obtain ⟨gap, hgap, hblank, hlast⟩ := exists_trimEnd inner
    have ht : Trimmed (trimEnd inner) := by
      refine ⟨fun c hc => htrim.1 c ?_, hlast⟩
      exact head?_of_append hinner (head?_of_append hgap hc)
    have htext := semicolon hleft ht hblank hright
    rw [← hgap, ← hinner, ← hs, ← normalize_of_semicolon hinner] at htext
    exact htext
  · have htext := plain hleft htrim hend hright
    rw [← hs, ← normalize_of_no_semicolon hend] at htext
    exact htext

theorem iff_normalize : StatementText s t ↔ t = normalize s :=
  ⟨fun h => h.normalize_eq.symm, fun h => h ▸ of_normalize s⟩

end StatementText

theorem normalize_eq_self_iff {t : List Char} (ht : Trimmed t) :
    normalize t = t ↔ t.getLast? ≠ some ';' := by
  constructor
  · intro h hend
    obtain ⟨inner, hinner⟩ := List.getLast?_eq_some_iff.mp hend
    obtain ⟨gap, hgap, -⟩ := exists_trimEnd inner
    rw [normalize_of_semicolon (ht.trim_eq.trans hinner)] at h
    have hlength := congrArg List.length hinner
    rw [← h] at hlength
    have hlength' := congrArg List.length hgap
    simp only [List.length_append, List.length_singleton] at hlength hlength'
    omega
  · intro hend
    have htext : StatementText ([] ++ t ++ []) t := .plain nofun ht hend nofun
    rw [List.nil_append, List.append_nil] at htext
    exact htext.normalize_eq

section Inference

variable {t w r u e : List Char}

theorem infers_iff : infers t = true ↔
    ∃ w r, t = w ++ r ∧ w.map Char.toLower = ['i', 'n', 'f', 'e', 'r'] := by
  rw [infers, beq_iff_eq]
  constructor
  · exact fun h => ⟨t.take 5, t.drop 5, (List.take_append_drop 5 t).symm, h⟩
  · rintro ⟨w, r, rfl, hw⟩
    have hlength : w.length = 5 := by simpa using congrArg List.length hw
    rwa [List.take_left' hlength]

theorem not_end_of_keyword {c : Char} (h : c.toLower ∈ ['i', 'n', 'f', 'e', 'r']) :
    ¬ (isBlank c = true ∨ c = ';') := by
  have hcase : ∀ l : Char, l ∈ ['i', 'n', 'f', 'e', 'r'] → c.toLower = l →
      ¬ (isBlank c = true ∨ c = ';') := by
    intro l hl hc
    have hlower : l.isLower = true := by
      simp only [List.mem_cons, List.not_mem_nil, or_false] at hl
      rcases hl with rfl | rfl | rfl | rfl | rfl <;> decide
    simp only [List.mem_cons, List.not_mem_nil, or_false] at hl
    rcases (Grammar.toLower_eq_iff hlower).mp hc with rfl | rfl <;>
      rcases hl with rfl | rfl | rfl | rfl | rfl <;> decide
  exact hcase _ h rfl

/-- What is stripped from the end of a statement does not make it infer. -/
theorem infers_append (he : ∀ c ∈ e, isBlank c = true ∨ c = ';') :
    infers (u ++ e) = infers u := by
  rw [Bool.eq_iff_iff, infers_iff, infers_iff]
  constructor
  · rintro ⟨w, r, hsplit, hw⟩
    -- The keyword ends within the statement, or it would reach a blank or a semicolon.
    rcases List.append_eq_append_iff.mp hsplit with ⟨x, rfl, hx⟩ | ⟨x, rfl, -⟩
    · cases x with
      | nil => exact ⟨u, [], (List.append_nil u).symm, by simpa using hw⟩
      | cons c x =>
        have hc : c.toLower ∈ (u ++ c :: x).map Char.toLower :=
          List.mem_map_of_mem (by simp)
        rw [hw] at hc
        exact absurd (he c (by simp [hx])) (not_end_of_keyword hc)
    · exact ⟨w, x, rfl, hw⟩
  · rintro ⟨w, r, rfl, hw⟩
    exact ⟨w, r ++ e, List.append_assoc w r e, hw⟩

theorem StatementText.exists_end {s : List Char} (h : StatementText s t) :
    ∃ left e, s = left ++ (t ++ e) ∧ (∀ c ∈ left, isBlank c = true) ∧
      ∀ c ∈ e, isBlank c = true ∨ c = ';' := by
  cases h with
  | @plain left t right hleft _ _ hright =>
    exact ⟨left, right, List.append_assoc left t right, hleft, fun c hc => .inl (hright c hc)⟩
  | @semicolon left t gap right hleft _ hgap hright =>
    refine ⟨left, gap ++ ';' :: right, by simp, hleft, fun c hc => ?_⟩
    rcases List.mem_append.mp hc with hc | hc
    · exact .inl (hgap c hc)
    · rcases List.mem_cons.mp hc with rfl | hc
      · exact .inr rfl
      · exact .inl (hright c hc)

theorem StatementText.infers_eq {s : List Char} (h : StatementText s t) (hs : Trimmed s) :
    infers s = infers t := by
  obtain ⟨left, e, rfl, hleft, he⟩ := h.exists_end
  cases left with
  | nil => exact infers_append he
  | cons c left =>
    have hblank := hleft c List.mem_cons_self
    rw [hs.1 c rfl] at hblank
    cases hblank

end Inference

namespace Session

/-- What a session makes of the answer to a statement. -/
def nativeOutcome (statement : List Char) (reply : QueryReply) : Outcome :=
  match reply.mutations with
  | some count => .updated count
  | none =>
    .rows (if infers statement then .list (inferredRows reply.rows) else .documents reply.rows)

variable (s : Session) {sql : String} {readOnly : Bool}

theorem executeNative_eq : s.executeNative sql readOnly =
    nativeOutcome (normalize sql.toList) <$> s.query (.ofList (normalize sql.toList)) readOnly := by
  rw [map_eq_pure_bind, executeNative]
  congr 1
  funext reply
  rw [nativeOutcome]
  cases reply.mutations with
  | some count => rfl
  | none =>
    dsimp only
    split <;> rfl

theorem query_inj {a b : String} (hopen : s.closed = false) {read : QueryReply → Outcome}
    (h : read <$> s.query a readOnly = read <$> s.query b readOnly) : a = b := by
  rw [query_of_open hopen, query_of_open hopen] at h
  injection h with hcall
  injection hcall

/-- A statement that no command takes is one query on both ways, and what it brings is read in
the same way; it is the same query just when a single stripping leaves no semicolon. -/
theorem queries_of_unread_statement
    (h : ∀ kind ∈ CommandKind.all, Grammar.read kind (.ofList (normalize sql.toList)) = .ok none) :
    ∃ (native executed : List Char) (read : QueryReply → Outcome),
      StatementText sql.toList native ∧ StatementText native executed ∧
      s.executeNative sql readOnly = read <$> s.query (.ofList native) readOnly ∧
      s.execute sql readOnly = read <$> s.query (.ofList executed) readOnly ∧
      (s.execute sql readOnly = s.executeNative sql readOnly ↔
        s.closed = true ∨ native.getLast? ≠ some ';') := by
  let native := normalize sql.toList
  have hnative : StatementText sql.toList native := .of_normalize _
  have hexecuted : StatementText native (normalize native) := .of_normalize _
  have hdirect : s.executeNative sql readOnly =
      nativeOutcome native <$> s.query (.ofList native) readOnly := s.executeNative_eq
  have hthrough : s.execute sql readOnly =
      nativeOutcome native <$> s.query (.ofList (normalize native)) readOnly := by
    have hread : nativeOutcome native = nativeOutcome (normalize native) := by
      funext reply
      rw [nativeOutcome, nativeOutcome, hexecuted.infers_eq hnative.trimmed]
    rw [s.execute_of_unread h, executeNative_eq, String.toList_ofList, hread]
  refine ⟨native, normalize native, nativeOutcome native, hnative, hexecuted, hdirect, hthrough, ?_⟩
  rw [← normalize_eq_self_iff hnative.trimmed, hdirect, hthrough]
  constructor
  · intro heq
    cases hclosed : s.closed with
    | true => exact .inl rfl
    | false =>
      have htext := congrArg String.toList (s.query_inj hclosed heq)
      rw [String.toList_ofList, String.toList_ofList] at htext
      exact .inr htext
  · rintro (hclosed | hsame)
    · rw [query_of_closed hclosed, query_of_closed hclosed]
    · rw [hsame]

theorem queries_of_terminated_select :
    let s : Session := { parameters := .resolve "adbc:couchbase:h" ['h'] [] none none [] }
    let sql := "  SELECT 1 ; "
    (∀ kind ∈ CommandKind.all, Grammar.read kind (.ofList (normalize sql.toList)) = .ok none) ∧
      StatementText sql.toList "SELECT 1".toList ∧ s.execute sql false = s.executeNative sql false ∧
      ∃ read, s.execute sql false = read <$> s.query "SELECT 1" false := by
  intro s sql
  have hunread : ∀ kind ∈ CommandKind.all,
      Grammar.read kind (.ofList (normalize sql.toList)) = .ok none := by decide +kernel
  obtain ⟨native, executed, read, hnative, hexecuted, -, hthrough, hsame⟩ :=
    @queries_of_unread_statement s sql false hunread
  have hn : native = "SELECT 1".toList := by
    rw [StatementText.iff_normalize.mp hnative]
    decide +kernel
  have he : executed = "SELECT 1".toList := by
    rw [StatementText.iff_normalize.mp hexecuted, hn]
    decide +kernel
  subst hn he
  rw [String.ofList_toList] at hthrough
  exact ⟨hunread, hnative, hsame.mpr (.inr (by decide +kernel)), read, hthrough⟩

/-- Past the commands a statement loses two semicolons. -/
theorem second_semicolon_is_stripped :
    let s : Session := { parameters := .resolve "adbc:couchbase:h" ['h'] [] none none [] }
    let sql := "SELECT 1;;"
    (∀ kind ∈ CommandKind.all, Grammar.read kind (.ofList (normalize sql.toList)) = .ok none) ∧
      (∃ read, s.executeNative sql false = read <$> s.query "SELECT 1;" false) ∧
      (∃ read, s.execute sql false = read <$> s.query "SELECT 1" false) ∧
      s.execute sql false ≠ s.executeNative sql false := by
  intro s sql
  have hunread : ∀ kind ∈ CommandKind.all,
      Grammar.read kind (.ofList (normalize sql.toList)) = .ok none := by decide +kernel
  have hnative : normalize sql.toList = "SELECT 1;".toList := by decide +kernel
  have hexecuted : normalize "SELECT 1;".toList = "SELECT 1".toList := by decide +kernel
  have hdirect : s.executeNative sql false =
      nativeOutcome "SELECT 1;".toList <$> s.query "SELECT 1;" false := by
    rw [executeNative_eq, hnative, String.ofList_toList]
  have hthrough : s.execute sql false =
      nativeOutcome "SELECT 1".toList <$> s.query "SELECT 1" false := by
    rw [s.execute_of_unread hunread, executeNative_eq, hnative, String.toList_ofList, hexecuted,
      String.ofList_toList]
  refine ⟨hunread, ⟨_, hdirect⟩, ⟨_, hthrough⟩, ?_⟩
  have hread : nativeOutcome "SELECT 1".toList = nativeOutcome "SELECT 1;".toList := by
    funext reply
    have hinfers : infers "SELECT 1".toList = infers "SELECT 1;".toList := by decide +kernel
    rw [nativeOutcome, nativeOutcome, hinfers]
  rw [hdirect, hthrough, hread]
  intro heq
  have htext := s.query_inj rfl heq
  exact absurd htext (by decide +kernel)

end Session

end KeyspaceLink
