import KeyspaceLink.Bucket.Settings
import KeyspaceLink.Json.Outline
import KeyspaceLink.Json.Relaxed

/-! Settings written between braces. A block is read as a whole: one member that is not
understood, or has a value of the wrong kind, refuses all of it. -/

namespace KeyspaceLink

structure SettingsPatch where
  flushEnabled : Option Bool := none
  ramQuotaMB : Option Nat := none
  replicaNumber : Option Nat := none
  replicaIndexes : Option Bool := none
  maxTTL : Option Nat := none
  compression : Option Compression := none
  kind : Option BucketKind := none
  conflictResolution : Option ConflictResolution := none
  eviction : Option Eviction := none
deriving DecidableEq, Repr

/-- Settings with the present fields of a patch in place of their own. -/
def BucketSettings.apply (s : BucketSettings) (p : SettingsPatch) : BucketSettings :=
  { name := s.name
    flushEnabled := p.flushEnabled.getD s.flushEnabled
    ramQuotaMB := p.ramQuotaMB.getD s.ramQuotaMB
    replicaNumber := p.replicaNumber.getD s.replicaNumber
    replicaIndexes := p.replicaIndexes.getD s.replicaIndexes
    maxTTL := p.maxTTL.getD s.maxTTL
    compression := p.compression.getD s.compression
    kind := p.kind.getD s.kind
    conflictResolution := p.conflictResolution.getD s.conflictResolution
    eviction := p.eviction.or s.eviction }

namespace SettingsPatch

/-- A truth value, or its word in any case. -/
def flag? : Json → Option Bool
  | .bool b => some b
  | .text s =>
    if lower s == "true" then some true else if lower s == "false" then some false else none
  | _ => none

/-- A number below `bound`, or its text. -/
def number? (bound : Nat) : Json → Option Nat
  | .int i => if 0 ≤ i ∧ i < bound then some i.toNat else none
  | .text s => (readUnsigned? word64 (trim s.toList)).filter (· < bound)
  | _ => none

def word? (words : List (String × α)) (v : Json) : Option α := v.text?.bind (ofWord? words)

/-- The patch with one more member. A null leaves its setting alone, whatever its name. -/
def set (p : SettingsPatch) (name : String) (v : Json) : Option SettingsPatch :=
  if v.isNull then some p
  else
    let key := lower name
    if key == "flushenabled" then (flag? v).map fun b => { p with flushEnabled := some b }
    else if key == "ramquotamb" then
      (number? word64 v).map fun n => { p with ramQuotaMB := some n }
    else if key == "replicanumber" then
      (number? word32 v).map fun n => { p with replicaNumber := some n }
    else if key == "replicaindexes" then (flag? v).map fun b => { p with replicaIndexes := some b }
    else if key == "maxttl" then (number? word32 v).map fun n => { p with maxTTL := some n }
    else if key == "compressionmode" then
      (word? Compression.words v).map fun c => { p with compression := some c }
    else if key == "buckettype" then
      (word? BucketKind.words v).map fun k => { p with kind := some k }
    else if key == "conflictresolutiontype" then
      (word? ConflictResolution.words v).map fun c => { p with conflictResolution := some c }
    else if key == "evictionpolicy" then
      (word? Eviction.words v).map fun e => { p with eviction := some e }
    else none

def ofMembers (members : List (String × Json)) : Option SettingsPatch :=
  members.foldlM (fun p m => p.set m.1 m.2) {}

def read (block : String) : Except Failure SettingsPatch :=
  match (Json.parseChars (Json.relax block.toList)).toOption.bind Json.members? with
  | none => .error (.malformed ("Could not decode from JSON: " ++ block))
  | some members =>
    match ofMembers members with
    | none => .error (.malformed ("Could not decode from JSON: " ++ block))
    | some p => .ok p

end SettingsPatch

end KeyspaceLink
