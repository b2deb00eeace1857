import KeyspaceLink.Failure
import KeyspaceLink.Json.Outline
import KeyspaceLink.Link.Parameters

/-! Bodies the services exchange. A record may come as an object, whose unknown members
are passed over and whose known ones come once at most, or as a list of its members in
order; what is left out has a default. -/

namespace KeyspaceLink.Wire

inductive Fault
  | text (r : Json.Refusal)
  | shape

def Fault.message (whole : List Char) : Fault → String
  | text r => r.message whole
  | shape => "invalid type"

abbrev Decoder (α : Type) := Json.Outline → Except Fault α

def readable (e : Except Json.Refusal α) : Except Fault α := e.mapError .text

/-- The members of a record, by the names it knows. -/
def record (names : List String) : Decoder (List (Option Json.Outline))
  | .list items =>
    if items.length ≤ names.length then
      .ok (items.map some ++ List.replicate (names.length - items.length) none)
    else .error .shape
  | .object members => do
    let keyed ← members.mapM fun (k, v) => do .ok ((← readable k), v)
    names.mapM fun name =>
      match keyed.filter (·.1 == name) with
      | [] => .ok none
      | [(_, v)] => .ok (some v)
      | _ => .error .shape
  | _ => .error .shape

def member (members : List (Option Json.Outline)) (index : Nat) (decode : Decoder α)
    (otherwise : α) :
    Except Fault α :=
  match members[index]?.join with
  | some v => decode v
  | none => .ok otherwise

def text : Decoder String
  | .text t => readable t
  | _ => .error .shape

def truth : Decoder Bool
  | .bool b => .ok b
  | _ => .error .shape

/-- An integer from `least` to below `bound`. -/
def integer (least bound : Int) : Decoder Int
  | .number n => do
    match ← readable n with
    | .int i => if least ≤ i ∧ i < bound then .ok i else .error .shape
    | _ => .error .shape
  | _ => .error .shape

def optional (decode : Decoder α) : Decoder (Option α)
  | .null => .ok none
  | v => (decode v).map some

def list (decode : Decoder α) : Decoder (List α)
  | .list items => items.mapM decode
  | _ => .error .shape

/-- Any value, within so many levels. -/
def value (depth : Nat) : Decoder Json := fun v => readable (v.value depth)

def setPort (name : String) (port : Nat) : List (String × Nat) → List (String × Nat)
  | [] => [(name, port)]
  | (k, p) :: rest => if k == name then (k, port) :: rest else (k, p) :: setPort name port rest

def ports : Decoder (List (String × Nat))
  | .object members => members.foldlM (fun done (k, v) => do
      let name ← readable k
      let port ← integer 0 word16 v
      .ok (setPort name port.toNat done)) []
  | _ => .error .shape

def decode (decoder : Decoder α) (body : String) : Except String α :=
  let s := body.toList
  (do decoder (← readable (Json.outline s))).mapError (Fault.message s)

end Wire

structure Node where
  /-- Absent when the node is the one that was asked. -/
  hostname : Option String
  services : List (String × Nat)
  thisNode : Bool
deriving DecidableEq, Repr

namespace Node

def decode : Wire.Decoder Node := fun v => do
  let ms ← Wire.record ["hostname", "services", "thisNode"] v
  .ok
    { hostname := ← Wire.member ms 0 (Wire.optional Wire.text) none
      services := ← Wire.member ms 1 Wire.ports []
      thisNode := ← Wire.member ms 2 Wire.truth false }

def decodeList : Wire.Decoder (List Node) := fun v => do
  Wire.member (← Wire.record ["nodesExt"] v) 0 (Wire.list decode) []

def readList (body : String) : Except String (List Node) := Wire.decode decodeList body

/-- The first node with a service, by its hostname, and the port. -/
def find? (service : String) (nodes : List Node) : Option (Option String × Nat) :=
  nodes.findSome? fun n => (n.services.lookup service).map fun port => (n.hostname, port)

end Node

/-- What the index service knows of each index. -/
structure IndexStatus where
  indexes : List Json

namespace IndexStatus

/-- Levels left for values two levels down. -/
def innerDepth : Nat := Json.depthLimit - 2

def decode : Wire.Decoder IndexStatus := fun v => do
  let ms ← Wire.record ["indexes"] v
  .ok { indexes := ← Wire.member ms 0 (Wire.list (Wire.value innerDepth)) [] }

def read (body : String) : Except String IndexStatus := Wire.decode decode body

def find (s : IndexStatus) (bucket index : String) : List Json :=
  s.indexes.filter fun e =>
    (e.get? "bucket").bind Json.text? == some bucket &&
      (e.get? "index").bind Json.text? == some index

end IndexStatus

structure QueryMetrics where
  elapsed : Option String
  results : Option Int
  mutations : Option Int
deriving DecidableEq, Repr

structure QueryBody where
  requestId : Option String
  results : List Json
  errors : List Json
  status : Option String
  metrics : Option QueryMetrics

namespace QueryBody

def count : Wire.Decoder Int := Wire.integer (-(word63 : Int)) word63

def decodeMetrics : Wire.Decoder QueryMetrics := fun v => do
  let ms ← Wire.record ["elapsedTime", "resultCount", "mutationCount"] v
  .ok
    { elapsed := ← Wire.member ms 0 (Wire.optional Wire.text) none
      results := ← Wire.member ms 1 (Wire.optional count) none
      mutations := ← Wire.member ms 2 (Wire.optional count) none }

def decode : Wire.Decoder QueryBody := fun v => do
  let ms ← Wire.record ["requestID", "results", "errors", "status", "metrics"] v
  let values := Wire.list (Wire.value IndexStatus.innerDepth)
  .ok
    { requestId := ← Wire.member ms 0 (Wire.optional Wire.text) none
      results := ← Wire.member ms 1 values []
      errors := ← Wire.member ms 2 values []
      status := ← Wire.member ms 3 (Wire.optional Wire.text) none
      metrics := ← Wire.member ms 4 (Wire.optional decodeMetrics) none }

def read (body : String) : Except String QueryBody := Wire.decode decode body

/-- Without errors, and with success as the status if there is one. -/
def succeeded (b : QueryBody) : Bool :=
  b.errors.isEmpty && b.status.all fun s => lower s == "success"

end QueryBody

structure QueryRequest where
  statement : String
  scanConsistency : ScanConsistency
  readOnly : Bool
  metrics : Bool
  timeout : Option String
deriving DecidableEq, Repr

def QueryRequest.json (r : QueryRequest) : Json :=
  .object ([("statement", .text r.statement), ("scan_consistency", .text r.scanConsistency.text),
    ("readonly", .bool r.readOnly), ("metrics", .bool r.metrics)] ++
    (match r.timeout with
      | some t => [("timeout", .text t)]
      | none => []))

end KeyspaceLink
