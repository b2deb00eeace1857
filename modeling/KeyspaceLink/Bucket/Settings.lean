import KeyspaceLink.Failure

/-! Settings of a bucket: their defaults, the form that creates a bucket, and the
document that describes one. -/

namespace KeyspaceLink

inductive BucketKind
  | couchbase
  | memcached
  | ephemeral
deriving DecidableEq, Repr

inductive Compression
  | off
  | passive
  | active
deriving DecidableEq, Repr

inductive ConflictResolution
  | sequenceNumber
  | timestamp
  | custom
deriving DecidableEq, Repr

inductive Eviction
  | full
  | valueOnly
  | never
  | notRecentlyUsed
deriving DecidableEq, Repr

/-- The value of a word, compared ignoring case, in a table of words in small letters. -/
def ofWord? (words : List (String × α)) (s : String) : Option α := words.lookup (lower s)

namespace BucketKind

def text : BucketKind → String
  | couchbase => "couchbase"
  | memcached => "memcached"
  | ephemeral => "ephemeral"

def words : List (String × BucketKind) :=
  [("couchbase", couchbase), ("membase", couchbase), ("memcached", memcached),
   ("ephemeral", ephemeral)]

end BucketKind

namespace Compression

def text : Compression → String
  | off => "off"
  | passive => "passive"
  | active => "active"

def words : List (String × Compression) := [("off", off), ("passive", passive), ("active", active)]

end Compression

namespace ConflictResolution

def text : ConflictResolution → String
  | sequenceNumber => "seqno"
  | timestamp => "lww"
  | custom => "custom"

def words : List (String × ConflictResolution) :=
  [("seqno", sequenceNumber), ("sequence_number", sequenceNumber), ("lww", timestamp),
   ("timestamp", timestamp), ("custom", custom)]

end ConflictResolution

namespace Eviction

def text : Eviction → String
  | full => "fullEviction"
  | valueOnly => "valueOnly"
  | never => "noEviction"
  | notRecentlyUsed => "nruEviction"

def words : List (String × Eviction) :=
  [("fulleviction", full), ("full", full), ("valueonly", valueOnly), ("value_only", valueOnly),
   ("noeviction", never), ("no_eviction", never), ("nrueviction", notRecentlyUsed),
   ("not_recently_used", notRecentlyUsed)]

end Eviction

structure BucketSettings where
  name : String
  flushEnabled : Bool := false
  ramQuotaMB : Nat := 100
  replicaNumber : Nat := 1
  replicaIndexes : Bool := false
  maxTTL : Nat := 0
  compression : Compression := .passive
  kind : BucketKind := .couchbase
  conflictResolution : ConflictResolution := .sequenceNumber
  eviction : Option Eviction := none
deriving DecidableEq, Repr

namespace BucketSettings

def bit (b : Bool) : String := if b then "1" else "0"

/-- The form that creates the bucket. A memcached bucket has no replicas, and only a
couchbase bucket replicates indexes. -/
def form (s : BucketSettings) : List (String × String) :=
  [("name", s.name), ("bucketType", s.kind.text), ("ramQuotaMB", toString s.ramQuotaMB),
   ("flushEnabled", bit s.flushEnabled), ("maxTTL", toString s.maxTTL),
   ("compressionMode", s.compression.text),
   ("conflictResolutionType", s.conflictResolution.text)] ++
  (if s.kind == .memcached then [] else [("replicaNumber", toString s.replicaNumber)]) ++
  (if s.kind == .couchbase then [("replicaIndex", bit s.replicaIndexes)] else []) ++
  (match s.eviction with
    | some e => [("evictionPolicy", e.text)]
    | none => [])

theorem mem_form_iff {s : BucketSettings} {field value : String} :
    (field, value) ∈ s.form ↔
      field = "name" ∧ value = s.name ∨
      field = "bucketType" ∧ value = s.kind.text ∨
      field = "ramQuotaMB" ∧ value = toString s.ramQuotaMB ∨
      field = "flushEnabled" ∧ value = (if s.flushEnabled then "1" else "0") ∨
      field = "maxTTL" ∧ value = toString s.maxTTL ∨
      field = "compressionMode" ∧ value = s.compression.text ∨
      field = "conflictResolutionType" ∧ value = s.conflictResolution.text ∨
      s.kind ≠ .memcached ∧ field = "replicaNumber" ∧ value = toString s.replicaNumber ∨
      s.kind = .couchbase ∧ field = "replicaIndex" ∧
        value = (if s.replicaIndexes then "1" else "0") ∨
      ∃ e, s.eviction = some e ∧ field = "evictionPolicy" ∧ value = e.text := by
  cases heviction : s.eviction <;> cases hkind : s.kind <;>
    simp [form, bit, heviction, hkind]

theorem nodup_form (s : BucketSettings) : (s.form.map Prod.fst).Nodup := by
  cases heviction : s.eviction <;> cases hkind : s.kind <;>
    simp [form, heviction, hkind]

/-- The document that describes the bucket; its name is not part of it. -/
def document (s : BucketSettings) : Json :=
  .object
    [("flushEnabled", .bool s.flushEnabled), ("ramQuotaMB", .ofNat s.ramQuotaMB),
     ("replicaNumber", .ofNat s.replicaNumber), ("replicaIndexes", .bool s.replicaIndexes),
     ("maxTTL", .ofNat s.maxTTL), ("compressionMode", .text s.compression.text),
     ("bucketType", .text s.kind.text),
     ("conflictResolutionType", .text s.conflictResolution.text),
     ("evictionPolicy", .ofText? (s.eviction.map Eviction.text))]

def halfWord (n : Nat) : Nat := min n (word32 - 1)

/-- A member that is one of the words of a table. -/
def word? (v : Json) (field : String) (words : List (String × α)) : Option α :=
  ((v.get? field).bind Json.text?).bind (ofWord? words)

/-- The settings a cluster manager reports; what it leaves out has its default. -/
def ofManager (v : Json) : Except Failure BucketSettings :=
  match (v.get? "name").bind Json.text? with
  | none => .error (.cluster ("Bucket description has no name: " ++ v.print))
  | some name =>
    let default : BucketSettings := { name }
    .ok
      { name
        flushEnabled := ((v.get? "controllers").bind (Json.get? · "flush")).isSome
        ramQuotaMB := (((v.get? "quota").bind (Json.get? · "rawRAM")).bind Json.natural?).elim
          default.ramQuotaMB (· / (1024 * 1024))
        replicaNumber := ((v.get? "replicaNumber").bind Json.natural?).elim
          default.replicaNumber halfWord
        replicaIndexes := ((v.get? "replicaIndex").bind Json.bool?).getD default.replicaIndexes
        maxTTL := ((v.get? "maxTTL").bind Json.natural?).elim default.maxTTL halfWord
        compression := (word? v "compressionMode" Compression.words).getD default.compression
        kind := (word? v "bucketType" BucketKind.words).getD default.kind
        conflictResolution :=
          (word? v "conflictResolutionType" ConflictResolution.words).getD
            default.conflictResolution
        eviction := word? v "evictionPolicy" Eviction.words }

end BucketSettings

end KeyspaceLink
