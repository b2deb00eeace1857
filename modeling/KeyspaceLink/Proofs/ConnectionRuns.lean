import KeyspaceLink.Access.Statement
import KeyspaceLink.Proofs.Conversation

/-! Runs of a connection: whatever is done with it and with the statements made on it, in
any order and whatever the cluster answers. -/

namespace KeyspaceLink

/-- A connection, its statements and the close flags of their results. -/
structure ConnectionState where
  connection : Connection
  statements : List Statement := []
  results : Results := {}

/-- What can be done with a connection and its statements, which go by number. -/
inductive Act
  | setOption (key : String) (v : OptionValue)
  | close
  | newStatement
  | setStatement (number : Nat) (key : String) (v : OptionValue)
  | setQuery (number : Nat) (sql : String)
  | execute (number : Nat)
  | executeUpdate (number : Nat)
  | executeSchema (number : Nat)
  | drop (number : Nat)

namespace ConnectionState

def withStatement (d : ConnectionState) (number : Nat)
    (use : Statement → ClusterPlan (Statement × Results)) : ClusterPlan ConnectionState :=
  match d.statements[number]? with
  | none => .done d
  | some s => do
    let (s, results) ← use s
    return { d with statements := d.statements.set number s, results }

/-- Carries out an act. A setting that is refused, and a number without a statement, change
nothing. -/
def perform (d : ConnectionState) : Act → ClusterPlan ConnectionState
  | .setOption key v =>
    .done { d with connection := (d.connection.set key v).toOption.getD d.connection }
  | .close => .done { d with connection := d.connection.close }
  | .newStatement =>
    .done { d with statements := d.statements ++ d.connection.newStatement.toOption.toList }
  | .setStatement number key v =>
    d.withStatement number fun s => .done ((s.set key v).toOption.getD s, d.results)
  | .setQuery number sql => d.withStatement number fun s => .done (s.setQuery sql, d.results)
  | .execute number =>
    d.withStatement number fun s => Prod.snd <$> s.execute d.connection d.results
  | .executeUpdate number =>
    d.withStatement number fun s => Prod.snd <$> s.executeUpdate d.connection d.results
  | .executeSchema number =>
    d.withStatement number fun s => Prod.snd <$> s.executeSchema d.connection d.results
  | .drop number =>
    match d.statements[number]? with
    | none => .done d
    | some s =>
      .done { d with
        statements := d.statements.eraseIdx number
        results := (s.release d.results).2 }

/-- The states after acts, the cluster answering in any way. -/
inductive Reaches : ConnectionState → List Act → ConnectionState → Prop
  | refl (d : ConnectionState) : Reaches d [] d
  | act {acts : List Act} {a : Act} {d d₁ d₂ : ConnectionState}
      {talk : List (Plan.Event ClusterCall ClusterCall.Reply)}
      (step : (d.perform a).Conversation talk (.ok d₁)) (rest : Reaches d₁ acts d₂) :
      Reaches d (a :: acts) d₂

end ConnectionState

/-- Whether a connection may only be read after an act, given whether it could before. -/
def Act.readOnly (before : Bool) : Act → Bool
  | .setOption key v =>
    if key = "adbc.connection.readonly" then v.flag?.getD before else before
  | _ => before

/-- The flag as it was last set; a connection starts without it. -/
def readOnlyAfter (acts : List Act) : Bool := acts.foldl Act.readOnly false

namespace ConnectionState

variable {d d' : ConnectionState}

theorem withStatement_connection {number : Nat}
    {use : Statement → ClusterPlan (Statement × Results)}
    {talk : List (Plan.Event ClusterCall ClusterCall.Reply)}
    (h : (d.withStatement number use).Conversation talk (.ok d')) :
    d'.connection = d.connection := by
  unfold withStatement at h
  split at h
  · obtain ⟨-, he⟩ := Plan.conversation_done_iff.mp h
    cases he
    rfl
  · rcases Plan.conversation_bind_iff.mp h with ⟨e, -, he⟩ | ⟨a, first, second, -, -, hs⟩
    · cases he
    · obtain ⟨-, he⟩ := Plan.conversation_done_iff.mp hs
      cases he
      rfl

theorem ofKey?_eq_readOnly_iff {key : String} :
    ConnectionOption.ofKey? key = some .readOnly ↔ key = "adbc.connection.readonly" := by
  unfold ConnectionOption.ofKey?
  by_cases hk : key = "adbc.connection.readonly"
  · simp [hk]
  · have hne : (key == "adbc.connection.readonly") = false := by simpa using hk
    simp only [List.lookup_cons, List.lookup_nil, hne, hk, iff_false]
    split <;> simp

theorem set_readOnly (c : Connection) (key : String) (v : OptionValue) :
    ((c.set key v).toOption.getD c).readOnly = (Act.setOption key v).readOnly c.readOnly := by
  by_cases hk : key = "adbc.connection.readonly"
  · simp only [Act.readOnly, if_pos hk, Connection.set, ofKey?_eq_readOnly_iff.mpr hk,
      OptionValue.accept]
    cases v.flag? <;> rfl
  · have hn := mt ofKey?_eq_readOnly_iff.mp hk
    simp only [Act.readOnly, if_neg hk, Connection.set]
    split
    · exact absurd ‹_› hn
    · rfl
    · rfl

theorem perform_readOnly {a : Act} {talk : List (Plan.Event ClusterCall ClusterCall.Reply)}
    (h : (d.perform a).Conversation talk (.ok d')) :
    d'.connection.readOnly = a.readOnly d.connection.readOnly := by
  cases a with
  | setOption key v =>
    obtain ⟨-, he⟩ := Plan.conversation_done_iff.mp h
    cases he
    exact set_readOnly d.connection key v
  | close =>
    obtain ⟨-, he⟩ := Plan.conversation_done_iff.mp h
    cases he
    rfl
  | newStatement =>
    obtain ⟨-, he⟩ := Plan.conversation_done_iff.mp h
    cases he
    rfl
  | setStatement number key v => rw [withStatement_connection h]; rfl
  | setQuery number sql => rw [withStatement_connection h]; rfl
  | execute number => rw [withStatement_connection h]; rfl
  | executeUpdate number => rw [withStatement_connection h]; rfl
  | executeSchema number => rw [withStatement_connection h]; rfl
  | drop number =>
    simp only [perform] at h
    split at h <;>
    · obtain ⟨-, he⟩ := Plan.conversation_done_iff.mp h
      cases he
      rfl

theorem Reaches.readOnly {acts : List Act} (h : Reaches d acts d') :
    d'.connection.readOnly = acts.foldl Act.readOnly d.connection.readOnly := by
  induction h with
  | refl d => rfl
  | act step rest ih => rw [ih, perform_readOnly step, List.foldl_cons]

end ConnectionState

end KeyspaceLink
