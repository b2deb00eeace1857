import KeyspaceLink.Proofs.ClusterCalls
import KeyspaceLink.Proofs.QuotedText
import KeyspaceLink.Proofs.StatementTexts

/-! The statements that sample tables. The name of a table stands between backquotes as it is, so
it reads back from the statement just when it holds no backquote itself. -/

namespace KeyspaceLink

open Plan

/-- Whatever is answered, these calls are made. -/
def Plan.Makes {Call : Type} {Reply : Call → Type} {α : Type} (p : Plan Call Reply α)
    (calls : List Call) : Prop :=
  ∀ talk outcome, Conversation p talk outcome → asked talk = calls

section Calls

variable {Call : Type} {Reply : Call → Type} {α β : Type} {p : Plan Call Reply α}
  {calls : List Call}

theorem makes_done (a : α) : (Plan.done a : Plan Call Reply α).Makes [] := by
  intro talk outcome h
  rw [(conversation_done_iff.mp h).1]
  rfl

theorem makes_fail (e : Failure) : (Plan.fail e : Plan Call Reply α).Makes [] := by
  intro talk outcome h
  rw [(conversation_fail_iff.mp h).1]
  rfl

theorem Plan.Makes.bind {f : α → Plan Call Reply β} (hp : p.Makes calls)
    (hf : ∀ a, (f a).Makes []) : (p.bind f).Makes calls := by
  intro talk outcome h
  rcases conversation_bind_iff.mp h with ⟨e, he, -⟩ | ⟨a, first, second, rfl, h₁, h₂⟩
  · exact hp _ _ he
  · rw [asked_append, hp _ _ h₁, hf a _ _ h₂, List.append_nil]

theorem Plan.Makes.attempt (hp : p.Makes calls) : p.attempt.Makes calls := by
  intro talk outcome h
  obtain ⟨x, hx, -⟩ := conversation_attempt_iff.mp h
  exact hp _ _ hx

/-- The calls of a plan that goes on may end early. -/
theorem Plan.Makes.append {f : α → Plan Call Reply β} {later : List Call}
    {talk : List (Event Call Reply)} {outcome : Except Failure β} (hp : p.Makes calls)
    (hf : ∀ a talk outcome, Conversation (f a) talk outcome → asked talk <+: later)
    (h : Conversation (p.bind f) talk outcome) : asked talk <+: calls ++ later := by
  rcases conversation_bind_iff.mp h with ⟨e, he, -⟩ | ⟨a, first, second, rfl, h₁, h₂⟩
  · rw [hp _ _ he]
    exact List.prefix_append calls later
  · rw [asked_append, hp _ _ h₁]
    exact (List.prefix_append_right_inj calls).mpr (hf a _ _ h₂)

end Calls

namespace Session

variable (s : Session)

/-- A session that is open sends a query, a closed one sends nothing. -/
def sends (sql : String) (readOnly : Bool) : List ClusterCall :=
  if s.closed then [] else [.query sql (s.queryOptions readOnly)]

theorem makes_query (sql : String) (readOnly : Bool) :
    (s.query sql readOnly).Makes (s.sends sql readOnly) := by
  rw [query, requireOpen, sends]
  split
  · exact makes_fail _
  · intro talk outcome h
    rw [conversation_query_iff.mp h]
    rfl

theorem makes_executeNative (sql : String) (readOnly : Bool) :
    (s.executeNative sql readOnly).Makes
      (s.sends (.ofList (normalize sql.toList)) readOnly) := by
  rw [executeNative_eq, map_eq_pure_bind]
  exact (s.makes_query _ _).bind fun _ => makes_done _

end Session

section Texts

variable (table : Keyspace) (size : Nat)

/-- What is sent to sample a table. -/
def sampledText : String :=
  "SELECT t.* FROM " ++ table.schema.getD Keyspace.defaultSchema ++ ":\x60" ++ table.name ++
    "\x60 t LIMIT " ++ toString size

/-- The text selects from a keyspace whose quoted name reads as the name of the table. -/
def SelectsFrom (text : String) : Prop :=
  ∃ rest, text.toList =
      ("SELECT t.* FROM " ++ table.schema.getD Keyspace.defaultSchema ++ ":").toList ++ rest ∧
    lexemes? '\x60' rest =
      some (.quoted table.name.toList :: (" t LIMIT " ++ toString size).toList.map .char)

theorem trimmed_sampledText : Trimmed (sampledText table size).toList := by
  refine ⟨fun c hc => ?_, fun c hc => ?_⟩
  · have hfirst : "SELECT t.* FROM ".toList.head? = some 'S' := by decide +kernel
    have hhead : (sampledText table size).toList.head? = some 'S' := by
      unfold sampledText
      rw [String.append_assoc, String.append_assoc, String.append_assoc, String.append_assoc,
        String.toList_append, List.head?_append, hfirst, Option.some_or]
    rw [hhead] at hc
    cases hc
    decide
  · have hne : (toString size).toList ≠ [] := toList_toString size ▸ Nat.toDigits_ne_nil
    unfold sampledText at hc
    rw [String.toList_append, List.getLast?_append_of_ne_nil _ hne] at hc
    exact isBlank_of_isDigit (isDigit_of_mem_toString (List.mem_of_getLast? hc))

theorem statementText_samplingStatement :
    StatementText (Session.samplingStatement table size).toList
      (sampledText table size).toList := by
  have htext : StatementText ([] ++ ((sampledText table size).toList ++ [] ++ [';']) ++ [])
      (sampledText table size).toList :=
    .semicolon nofun (trimmed_sampledText table size) nofun nofun
  have hstatement : (Session.samplingStatement table size).toList =
      (sampledText table size).toList ++ [';'] := String.toList_append
  rw [hstatement]
  simpa using htext

theorem backquote_not_mem_tail : '\x60' ∉ (" t LIMIT " ++ toString size).toList := by
  rw [String.toList_append, List.mem_append]
  rintro (h | h)
  · exact absurd h (by decide +kernel)
  · exact absurd (isDigit_of_mem_toString h) (by decide)

theorem toList_sampledText : (sampledText table size).toList =
    ("SELECT t.* FROM " ++ table.schema.getD Keyspace.defaultSchema ++ ":").toList ++
      '\x60' :: (table.name.toList ++ '\x60' :: (" t LIMIT " ++ toString size).toList) := by
  have hopen : ":\x60".toList = ":".toList ++ ['\x60'] := by decide +kernel
  have hclose : "\x60 t LIMIT ".toList = '\x60' :: " t LIMIT ".toList := by decide +kernel
  unfold sampledText
  rw [String.toList_append, String.toList_append, String.toList_append, String.toList_append, hopen,
    hclose, String.toList_append (t := ":"), String.toList_append (s := " t LIMIT ")]
  simp only [List.append_assoc, List.cons_append, List.nil_append]

theorem selectsFrom_sampledText_iff :
    SelectsFrom table size (sampledText table size) ↔ '\x60' ∉ table.name.toList := by
  rw [← lexemes?_between_iff (backquote_not_mem_tail size)]
  constructor
  · rintro ⟨rest, hrest, hread⟩
    rw [toList_sampledText] at hrest
    rwa [← List.append_cancel_left hrest] at hread
  · exact fun hread => ⟨_, toList_sampledText table size, hread⟩

end Texts

namespace Session

variable (s : Session)

theorem makes_sampleSome (table : Keyspace) (size : Nat) :
    (s.sampleSome table size).Makes (s.sends (sampledText table size) true) := by
  have hnative := s.makes_executeNative (samplingStatement table size) true
  rw [(statementText_samplingStatement table size).normalize_eq, String.ofList_toList] at hnative
  refine hnative.attempt.bind fun outcome => ?_
  cases outcome with
  | error e =>
    dsimp only
    split
    · exact makes_done _
    · exact makes_fail _
  | ok outcome => exact makes_done _

theorem makes_listTableColumns (t : TableEntry) (column : Option String) :
    (s.listTableColumns t column).Makes
      (s.sends (sampledText t.keyspace s.parameters.samplingSize) true) :=
  (s.makes_sampleSome t.keyspace s.parameters.samplingSize).bind fun _ => makes_done _

theorem makes_getTableSchema (schema : Option String) (table : String) :
    (s.getTableSchema schema table).Makes
      (s.sends (sampledText ⟨some (schema.getD Keyspace.defaultSchema), table⟩
        s.parameters.samplingSize) true) :=
  (s.makes_listTableColumns ⟨schema.getD Keyspace.defaultSchema, table⟩ none).bind
    fun _ => makes_done _

/-- The statements that sample tables, in order. -/
def sendsSamples (tables : List TableEntry) : List ClusterCall :=
  tables.flatMap fun t => s.sends (sampledText t.keyspace s.parameters.samplingSize) true

theorem samples_of_listColumnsOf {column : Option String} {tables : List TableEntry}
    {talk : List ClusterEvent} {outcome : Except Failure (List ColumnEntry)}
    (h : Conversation (s.listColumnsOf column tables) talk outcome) :
    asked talk <+: s.sendsSamples tables := by
  induction tables generalizing talk outcome with
  | nil =>
    rw [(conversation_done_iff.mp h).1]
    exact List.prefix_rfl
  | cons t rest ih =>
    refine (s.makes_listTableColumns t column).append (fun here talk outcome hrest => ?_) h
    obtain ⟨o, ho⟩ := hrest.of_bind fun there talk outcome hdone =>
      (conversation_done_iff.mp hdone).1
    exact ih ho

theorem samples_of_addColumnsOf {column : Option String} {tree : ObjectTree}
    {tables : List TableEntry} {talk : List ClusterEvent} {outcome : Except Failure ObjectTree}
    (h : Conversation (s.addColumnsOf column tree tables) talk outcome) :
    asked talk <+: s.sendsSamples tables := by
  induction tables generalizing talk tree outcome with
  | nil =>
    rw [(conversation_done_iff.mp h).1]
    exact List.prefix_rfl
  | cons t rest ih =>
    exact (s.makes_listTableColumns t column).append (fun columns talk outcome => ih) h

/-- Each table is sampled by one statement, and the name in it is that of the table just when
the name holds no backquote. -/
theorem sampling_statements_of_tables :
    (∀ table size, (s.sampleSome table size).Makes (s.sends (sampledText table size) true)) ∧
      (∀ schema table, (s.getTableSchema schema table).Makes
        (s.sends (sampledText ⟨some (schema.getD Keyspace.defaultSchema), table⟩
          s.parameters.samplingSize) true)) ∧
      (∀ column tables talk outcome, Conversation (s.listColumnsOf column tables) talk outcome →
        asked talk <+: s.sendsSamples tables) ∧
      (∀ column tree tables talk outcome,
        Conversation (s.addColumnsOf column tree tables) talk outcome →
        asked talk <+: s.sendsSamples tables) ∧
      ∀ table size,
        SelectsFrom table size (sampledText table size) ↔ '\x60' ∉ table.name.toList :=
  ⟨s.makes_sampleSome, s.makes_getTableSchema, fun _ _ _ _ => s.samples_of_listColumnsOf,
    fun _ _ _ _ _ => s.samples_of_addColumnsOf, selectsFrom_sampledText_iff⟩

/-- A backquote in a name ends the quoted name before its end. -/
theorem sample_of_backquoted_name :
    let s : Session := { parameters := .resolve "adbc:couchbase:h" ['h'] [] none none [] }
    let table : Keyspace := ⟨none, "a\x60b"⟩
    let text := "SELECT t.* FROM default:\x60a\x60b\x60 t LIMIT 5"
    (s.sampleSome table 5).Makes [.query text (s.queryOptions true)] ∧
      ¬ SelectsFrom table 5 text := by
  intro s table text
  have htext : sampledText table 5 = text := by decide +kernel
  have hmakes := s.makes_sampleSome table 5
  rw [htext] at hmakes
  refine ⟨hmakes, ?_⟩
  rw [← htext, selectsFrom_sampledText_iff]
  decide +kernel

end Session

end KeyspaceLink
