import KeyspaceLink.Cluster.Wire
import KeyspaceLink.Proofs.HostLists

/-! What the bodies of the services say: the nodes of a cluster with their ports, the indexes it
lists, and the answer to a query. A record comes as an object or as a list, and what it leaves out
has its default. -/

namespace KeyspaceLink

open Json (Outline)

namespace Wire

variable {α β : Type}

/-- A decoder accepts just what says something, and tells what it says. -/
def Decoder.Reads (decode : Decoder α) (Says : Outline → α → Prop) : Prop :=
  ∀ o a, decode o = .ok a ↔ Says o a

/-- A record that knows these names, with what it has under each of them. -/
inductive Record (names : List String) : Outline → List (Option Outline) → Prop
  | object (members : List (String × Outline)) {fields : List (Option Outline)}
      (found : List.Forall₂ (fun name field =>
        (members.filter (·.1 == name)).map Prod.snd = Option.toList field) names fields) :
      Record names (.object (members.map fun m => (.ok m.1, m.2))) fields
  | list (items : List Outline) (few : items.length ≤ names.length) :
      Record names (.list items)
        (items.map some ++ List.replicate (names.length - items.length) none)

/-- What a member of a record says; one that is left out says what is to be taken instead. -/
inductive Member (Says : Outline → α → Prop) (otherwise : α) : Option Outline → α → Prop
  | absent : Member Says otherwise none otherwise
  | given {o : Outline} {a : α} (h : Says o a) : Member Says otherwise (some o) a

inductive Optional (Says : Outline → α → Prop) : Outline → Option α → Prop
  | null : Optional Says .null none
  | given {o : Outline} {a : α} (h : Says o a) (hnull : o ≠ .null) : Optional Says o (some a)

inductive Items (Says : Outline → α → Prop) : Outline → List α → Prop
  | list {items : List Outline} {as : List α} (h : List.Forall₂ Says items as) :
      Items Says (.list items) as

/-- Ports by name; of those under one name the last counts. -/
inductive Ports : Outline → List (String × Nat) → Prop
  | object (members : List (String × Nat)) (fit : ∀ m ∈ members, m.2 < word16) :
      Ports (.object (members.map fun m => (.ok m.1, .number (.ok (.int m.2)))))
        (members.foldl (fun done m => setPort m.1 m.2 done) [])

def Text (o : Outline) (s : String) : Prop := o = .text (.ok s)

def Truth (o : Outline) (b : Bool) : Prop := o = .bool b

def Integer (least bound : Int) (o : Outline) (i : Int) : Prop :=
  o = .number (.ok (.int i)) ∧ least ≤ i ∧ i < bound

def Value (depth : Nat) (o : Outline) (v : Json) : Prop := o.value depth = .ok v

theorem mapError_eq_ok_iff {ε ε' : Type} {f : ε → ε'} {x : Except ε α} {a : α} :
    x.mapError f = .ok a ↔ x = .ok a := by
  cases x <;> simp [Except.mapError]

theorem readable_eq_ok_iff {x : Except Json.Refusal α} {a : α} :
    readable x = .ok a ↔ x = .ok a :=
  mapError_eq_ok_iff

theorem mapM_readable_iff {members : List (Except Json.Refusal String × Outline)}
    {keyed : List (String × Outline)} :
    (members.mapM fun (k, v) => (do .ok ((← readable k), v) : Except Fault _)) = .ok keyed ↔
      members = keyed.map fun m => (.ok m.1, m.2) := by
  have hmember : ∀ (m : Except Json.Refusal String × Outline) (k : String × Outline),
      (do .ok ((← readable m.1), m.2) : Except Fault _) = .ok k ↔ m = (.ok k.1, k.2) := by
    rintro ⟨key, v⟩ ⟨name, w⟩
    simp [Json.bind_eq_ok_iff, readable_eq_ok_iff]
  rw [mapM_eq_ok_iff]
  simp only [hmember]
  rw [← List.forall₂_map_right_iff (R := fun m k => m = k), List.forall₂_eq_eq_eq]

theorem reads_record (names : List String) : (record names).Reads (Record names) := by
  intro o fields
  cases o with
  | null | bool | number | text => exact iff_of_false nofun nofun
  | list items =>
    rw [record]
    constructor
    · intro h
      split at h
      · next hfew =>
        cases h
        exact .list items hfew
      · cases h
    · intro h
      cases h with
      | list _ few => rw [if_pos few]
  | object members =>
    constructor
    · intro h
      obtain ⟨keyed, hkeyed, hfound⟩ := Json.bind_eq_ok_iff.mp h
      obtain rfl := mapM_readable_iff.mp hkeyed
      refine .object keyed ((mapM_eq_ok_iff.mp hfound).imp fun name field hfield => ?_)
      split at hfield
      · next hnone =>
        cases hfield
        rw [hnone]
        rfl
      · next hone =>
        cases hfield
        rw [hone]
        rfl
      · cases hfield
    · intro h
      cases h with
      | object keyed found =>
        refine Json.bind_eq_ok_iff.mpr ⟨keyed, mapM_readable_iff.mpr rfl,
          mapM_eq_ok_iff.mpr (found.imp fun name field hfield => ?_)⟩
        cases field with
        | none => rw [List.map_eq_nil_iff.mp hfield]
        | some v =>
          obtain ⟨⟨key, w⟩, hone, rfl⟩ := List.map_eq_singleton_iff.mp hfield
          rw [hone]

theorem Record.length {names : List String} {o : Outline} {fields : List (Option Outline)}
    (h : Record names o fields) : fields.length = names.length := by
  cases h with
  | object members found => exact found.length_eq.symm
  | list items few =>
    rw [List.length_append, List.length_map, List.length_replicate]
    omega

theorem reads_text : text.Reads Text := by
  intro o s
  cases o <;> simp [text, Text, readable_eq_ok_iff]

theorem reads_truth : truth.Reads Truth := by
  intro o b
  cases o <;> simp [truth, Truth]

theorem reads_value (depth : Nat) : (value depth).Reads (Value depth) := fun _ _ =>
  readable_eq_ok_iff

theorem reads_integer (least bound : Int) :
    (integer least bound).Reads (Integer least bound) := by
  intro o i
  cases o with
  | null | bool | text | list | object => simp [integer, Integer]
  | number value =>
    rw [integer, Json.bind_eq_ok_iff]
    simp only [readable_eq_ok_iff]
    constructor
    · rintro ⟨n, rfl, hn⟩
      cases n with
      | int j =>
        dsimp only at hn
        split at hn
        · next hrange =>
          cases hn
          exact ⟨rfl, hrange⟩
        · cases hn
      | _ => cases hn
    · rintro ⟨hvalue, hrange⟩
      cases hvalue
      exact ⟨_, rfl, if_pos hrange⟩

section Parts

variable {decode : Decoder α} {Says : Outline → α → Prop}

theorem Decoder.Reads.optional (h : decode.Reads Says) :
    (optional decode).Reads (Optional Says) := by
  have hmap : ∀ (o : Outline) (a : Option α),
      (decode o).map some = .ok a ↔ ∃ b, decode o = .ok b ∧ a = some b := by
    intro o a
    cases decode o <;> simp [Except.map, eq_comm]
  intro o a
  by_cases hnull : o = .null
  · subst hnull
    constructor
    · intro hread
      cases hread
      exact .null
    · intro hsays
      cases hsays with
      | null => rfl
      | given _ hnull => exact absurd rfl hnull
  · have hread : Wire.optional decode o = (decode o).map some := by
      cases o with
      | null => exact absurd rfl hnull
      | _ => rfl
    rw [hread, hmap]
    constructor
    · rintro ⟨b, hb, rfl⟩
      exact .given ((h o b).mp hb) hnull
    · intro hsays
      cases hsays with
      | null => exact absurd rfl hnull
      | given hb => exact ⟨_, (h o _).mpr hb, rfl⟩

theorem Decoder.Reads.list (h : decode.Reads Says) : (list decode).Reads (Items Says) := by
  intro o as
  constructor
  · intro hread
    cases o with
    | list items => exact .list ((mapM_eq_ok_iff.mp hread).imp fun o a => (h o a).mp)
    | _ => cases hread
  · intro hsays
    cases hsays with
    | list hitems => exact mapM_eq_ok_iff.mpr (hitems.imp fun o a => (h o a).mpr)

theorem Decoder.Reads.member (h : decode.Reads Says) {fields : List (Option Outline)} {index : Nat}
    {x : Option Outline} {otherwise a : α} (hx : fields[index]? = some x) :
    member fields index decode otherwise = .ok a ↔ Member Says otherwise x a := by
  rw [Wire.member, hx, Option.join_some]
  cases x with
  | none =>
    constructor
    · intro hread
      cases hread
      exact .absent
    · intro hsays
      cases hsays
      rfl
  | some o =>
    constructor
    · exact fun hread => .given ((h o a).mp hread)
    · intro hsays
      cases hsays with
      | given hsaid => exact (h o a).mpr hsaid

/-- What a body says is what its outline says. -/
theorem Decoder.Reads.body (h : decode.Reads Says) {body : String} {a : α} :
    Wire.decode decode body = .ok a ↔ ∃ o, Json.outline body.toList = .ok o ∧ Says o a := by
  rw [Wire.decode, mapError_eq_ok_iff, Json.bind_eq_ok_iff]
  simp only [readable_eq_ok_iff, h _ a]

end Parts

theorem foldlM_setPort_iff {members : List (Except Json.Refusal String × Outline)}
    {before after : List (String × Nat)} :
    (members.foldlM (fun done (k, v) => do
        let name ← readable k
        let port ← integer 0 word16 v
        .ok (setPort name port.toNat done)) before : Except Fault _) = .ok after ↔
      ∃ ports : List (String × Nat), (∀ m ∈ ports, m.2 < word16) ∧
        members = ports.map (fun m => (.ok m.1, .number (.ok (.int m.2)))) ∧
        after = ports.foldl (fun done m => setPort m.1 m.2 done) before := by
  induction members generalizing before with
  | nil =>
    constructor
    · intro h
      cases h
      exact ⟨[], List.forall_mem_nil _, rfl, rfl⟩
    · rintro ⟨ms, -, hmembers, rfl⟩
      rw [List.map_eq_nil_iff.mp hmembers.symm]
      rfl
  | cons m members ih =>
    obtain ⟨key, v⟩ := m
    rw [List.foldlM_cons]
    simp only [Json.bind_eq_ok_iff, readable_eq_ok_iff, (reads_integer _ _) _ _, Integer, ih]
    constructor
    · rintro ⟨_, ⟨name, rfl, port, ⟨rfl, hpos, hlt⟩, hset⟩, ms, hfit, rfl, rfl⟩
      cases hset
      obtain ⟨n, rfl⟩ := Int.eq_ofNat_of_zero_le hpos
      exact ⟨(name, n) :: ms, List.forall_mem_cons.mpr ⟨by omega, hfit⟩, rfl, rfl⟩
    · rintro ⟨ms, hfit, hmembers, rfl⟩
      cases ms with
      | nil => cases hmembers
      | cons first ms =>
        obtain ⟨hfirst, rfl⟩ := List.cons.inj hmembers
        cases hfirst
        obtain ⟨hlt, hfit⟩ := List.forall_mem_cons.mp hfit
        exact ⟨_, ⟨_, rfl, _, ⟨rfl, by omega, by omega⟩, rfl⟩, ms, hfit, rfl, rfl⟩

theorem reads_ports : ports.Reads Ports := by
  intro o services
  constructor
  · intro hread
    cases o with
    | object members =>
      obtain ⟨ms, hfit, rfl, rfl⟩ := foldlM_setPort_iff.mp hread
      exact .object ms hfit
    | _ => cases hread
  · intro hsays
    cases hsays with
    | object ms hfit => exact foldlM_setPort_iff.mpr ⟨ms, hfit, rfl, rfl⟩

theorem lookup_setPort (name key : String) (port : Nat) (done : List (String × Nat)) :
    (setPort key port done).lookup name = if name = key then some port else done.lookup name := by
  induction done with
  | nil => exact lookup_cons_eq (key, port)
  | cons p done ih =>
    obtain ⟨k, old⟩ := p
    by_cases hk : k = key
    · rw [setPort, if_pos (beq_iff_eq.mpr hk), lookup_cons_eq, lookup_cons_eq, hk]
      split <;> rfl
    · rw [setPort, if_neg (mt beq_iff_eq.mp hk), lookup_cons_eq, lookup_cons_eq, ih]
      by_cases h : name = k
      · rw [if_pos h, if_pos h, if_neg (h ▸ hk)]
      · rw [if_neg h, if_neg h]

/-- Of the ports under one name the last is found. -/
theorem lookup_ports (members : List (String × Nat)) (name : String) :
    (members.foldl (fun done m => setPort m.1 m.2 done) []).lookup name =
      members.reverse.lookup name := by
  have hfrom : ∀ before : List (String × Nat),
      (members.foldl (fun done m => setPort m.1 m.2 done) before).lookup name =
        (members.reverse.lookup name).or (before.lookup name) := by
    induction members with
    | nil => simp
    | cons m members ih =>
      intro before
      rw [List.foldl_cons, ih, lookup_setPort, List.reverse_cons, List.lookup_append,
        Option.or_assoc, lookup_cons_eq]
      split <;> rfl
  rw [hfrom, List.lookup_nil, Option.or_none]

end Wire

open Wire

namespace Node

/-- A node as a record describes it. -/
def Described (o : Outline) (node : Node) : Prop :=
  ∃ hostname services thisNode,
    Record ["hostname", "services", "thisNode"] o [hostname, services, thisNode] ∧
      Member (Optional Text) none hostname node.hostname ∧
      Member Ports [] services node.services ∧
      Member Truth false thisNode node.thisNode

theorem reads_decode : decode.Reads Described := by
  intro o node
  simp only [decode, Json.bind_eq_ok_iff, (reads_record _) o _]
  constructor
  · rintro ⟨fields, hrecord, hostname, h₀, services, h₁, thisNode, h₂, hnode⟩
    match fields, hrecord.length with
    | [_, _, _], _ =>
      cases hnode
      exact ⟨_, _, _, hrecord, (reads_text.optional.member rfl).mp h₀,
        (reads_ports.member rfl).mp h₁, (reads_truth.member rfl).mp h₂⟩
  · rintro ⟨_, _, _, hrecord, h₀, h₁, h₂⟩
    exact ⟨_, hrecord, _, (reads_text.optional.member rfl).mpr h₀,
      _, (reads_ports.member rfl).mpr h₁, _, (reads_truth.member rfl).mpr h₂, rfl⟩

/-- The nodes that a body lists, in order; without a list there are none. -/
def Listed (o : Outline) (nodes : List Node) : Prop :=
  ∃ field, Record ["nodesExt"] o [field] ∧ Member (Items Described) [] field nodes

theorem readList_eq_ok_iff {body : String} {nodes : List Node} :
    readList body = .ok nodes ↔ ∃ o, Json.outline body.toList = .ok o ∧ Listed o nodes := by
  have hlist : decodeList.Reads Listed := by
    intro o nodes
    simp only [decodeList, Json.bind_eq_ok_iff, (reads_record _) o _]
    constructor
    · rintro ⟨fields, hrecord, h⟩
      match fields, hrecord.length with
      | [_], _ => exact ⟨_, hrecord, (reads_decode.list.member rfl).mp h⟩
    · rintro ⟨_, hrecord, h⟩
      exact ⟨_, hrecord, (reads_decode.list.member rfl).mpr h⟩
  exact hlist.body

end Node

namespace IndexStatus

/-- The entries of the indexes that a body lists, in order. -/
def Described (o : Outline) (status : IndexStatus) : Prop :=
  ∃ field, Record ["indexes"] o [field] ∧
    Member (Items (Value innerDepth)) [] field status.indexes

theorem read_eq_ok_iff {body : String} {status : IndexStatus} :
    read body = .ok status ↔ ∃ o, Json.outline body.toList = .ok o ∧ Described o status := by
  have hentries := (reads_value innerDepth).list
  have hdecode : decode.Reads Described := by
    intro o status
    simp only [decode, Json.bind_eq_ok_iff, (reads_record _) o _]
    constructor
    · rintro ⟨fields, hrecord, indexes, h, hstatus⟩
      match fields, hrecord.length with
      | [_], _ =>
        cases hstatus
        exact ⟨_, hrecord, (hentries.member rfl).mp h⟩
    · rintro ⟨_, hrecord, h⟩
      exact ⟨_, hrecord, _, (hentries.member rfl).mpr h, rfl⟩
  exact hdecode.body

end IndexStatus

namespace QueryBody

/-- The counts of a query are integers of a word with a sign. -/
def Count : Outline → Int → Prop := Integer (-(word63 : Int)) word63

def Measured (o : Outline) (metrics : QueryMetrics) : Prop :=
  ∃ elapsed results mutations,
    Record ["elapsedTime", "resultCount", "mutationCount"] o [elapsed, results, mutations] ∧
      Member (Optional Text) none elapsed metrics.elapsed ∧
      Member (Optional Count) none results metrics.results ∧
      Member (Optional Count) none mutations metrics.mutations

theorem reads_decodeMetrics : decodeMetrics.Reads Measured := by
  have hcount : (optional count).Reads (Optional Count) := (reads_integer _ _).optional
  intro o metrics
  simp only [decodeMetrics, Json.bind_eq_ok_iff, (reads_record _) o _]
  constructor
  · rintro ⟨fields, hrecord, elapsed, h₀, results, h₁, mutations, h₂, hmetrics⟩
    match fields, hrecord.length with
    | [_, _, _], _ =>
      cases hmetrics
      exact ⟨_, _, _, hrecord, (reads_text.optional.member rfl).mp h₀,
        (hcount.member rfl).mp h₁, (hcount.member rfl).mp h₂⟩
  · rintro ⟨_, _, _, hrecord, h₀, h₁, h₂⟩
    exact ⟨_, hrecord, _, (reads_text.optional.member rfl).mpr h₀,
      _, (hcount.member rfl).mpr h₁, _, (hcount.member rfl).mpr h₂, rfl⟩

/-- The answer to a query, as a record describes it. -/
def Described (o : Outline) (answer : QueryBody) : Prop :=
  ∃ requestId results errors status metrics,
    Record ["requestID", "results", "errors", "status", "metrics"] o
        [requestId, results, errors, status, metrics] ∧
      Member (Optional Text) none requestId answer.requestId ∧
      Member (Items (Value IndexStatus.innerDepth)) [] results answer.results ∧
      Member (Items (Value IndexStatus.innerDepth)) [] errors answer.errors ∧
      Member (Optional Text) none status answer.status ∧
      Member (Optional Measured) none metrics answer.metrics

theorem read_eq_ok_iff {body : String} {answer : QueryBody} :
    read body = .ok answer ↔ ∃ o, Json.outline body.toList = .ok o ∧ Described o answer := by
  have htext := reads_text.optional
  have hvalues := (reads_value IndexStatus.innerDepth).list
  have hmetrics := reads_decodeMetrics.optional
  have hdecode : decode.Reads Described := by
    intro o answer
    simp only [decode, Json.bind_eq_ok_iff, (reads_record _) o _]
    constructor
    · rintro ⟨fields, hrecord, _, h₀, _, h₁, _, h₂, _, h₃, _, h₄, hanswer⟩
      match fields, hrecord.length with
      | [_, _, _, _, _], _ =>
        cases hanswer
        exact ⟨_, _, _, _, _, hrecord, (htext.member rfl).mp h₀, (hvalues.member rfl).mp h₁,
          (hvalues.member rfl).mp h₂, (htext.member rfl).mp h₃, (hmetrics.member rfl).mp h₄⟩
    · rintro ⟨_, _, _, _, _, hrecord, h₀, h₁, h₂, h₃, h₄⟩
      exact ⟨_, hrecord, _, (htext.member rfl).mpr h₀, _, (hvalues.member rfl).mpr h₁,
        _, (hvalues.member rfl).mpr h₂, _, (htext.member rfl).mpr h₃,
        _, (hmetrics.member rfl).mpr h₄, rfl⟩
  exact hdecode.body

end QueryBody

end KeyspaceLink
