import KeyspaceLink.Cluster.Call
import KeyspaceLink.Cluster.Wire

/-! Waiting for what a cluster only does in time. A probe that finds it not ready is
repeated, after pauses that double up to three seconds, until a deadline. -/

namespace KeyspaceLink

/-- How often the pause has doubled, as a word; past its width it stays at the largest. -/
def doublings (attempt : Nat) : Nat := if attempt < 32 then 1 <<< attempt else word32 - 1

/-- The pause after a probe, counted from zero. -/
def backoff (attempt : Nat) : Nat := min (50 * doublings attempt) 3000

theorem doublings_pos (attempt : Nat) : 0 < doublings attempt := by
  unfold doublings
  split
  · rw [Nat.one_shiftLeft]
    exact Nat.two_pow_pos attempt
  · decide

theorem backoff_pos (attempt : Nat) : 0 < backoff attempt := by
  have := doublings_pos attempt
  unfold backoff
  omega

def timedOut (timeout : Nat) (resource : String) (last : Failure) : Failure :=
  .timeout (resource ++ " is still not ready after " ++ (Duration.mk timeout).text ++ "." ++
    (if last.message.isEmpty then "" else " " ++ last.message))

/-- Waits with `elapsed` milliseconds gone; the last probe is made at the deadline. -/
def waitFrom (timeout : Nat) (resource : String) (probe : Plan Call Reply α)
    (elapsed attempt : Nat) : Plan Call Reply α :=
  probe.attempt.bind fun
    | .ok a => .done a
    | .error e =>
      if e.kind = .notReady then
        if _h : elapsed < timeout then
          let pause := min (backoff attempt) (timeout - elapsed)
          .sleep pause (waitFrom timeout resource probe (elapsed + pause) (attempt + 1))
        else .fail (timedOut timeout resource e)
      else .fail e
termination_by timeout - elapsed
decreasing_by
  have := backoff_pos attempt
  omega

def waitFor (timeout : Nat) (resource : String) (probe : Plan Call Reply α) : Plan Call Reply α :=
  waitFrom timeout resource probe 0 0

namespace IndexStatus

def primaryName : String := "#primary"

def fetch : ClusterPlan IndexStatus := do
  let reply ← ClusterPlan.manage (.get "/indexStatus")
  let reply ← Plan.ofExcept (reply.require "Failed to retrieve index information")
  match read reply.body with
  | .ok s => return s
  | .error e =>
    .fail { Failure.cluster ("Failed to retrieve index information: " ++ reply.body) with
      cause := some e }

def unready (states : List (String × String)) : Failure :=
  .notReady ("Unready index name -> state: \x7b" ++
    ", ".intercalate (states.map fun p => p.1 ++ "=" ++ p.2) ++ "\x7d")

def field (entry : Json) (name : String) : String := ((entry.get? name).bind Json.text?).getD "null"

/-- States by qualified name, sorted. -/
def states (entries : List Json) : List (String × String) :=
  sorted (entries.map fun e => (field e "bucket" ++ ":" ++ field e "index", field e "status"))

def isReady (entry : Json) : Bool := (entry.get? "status").bind Json.text? == some "Ready"

/-- Succeeds once the primary index of a bucket is listed and all its entries are ready. -/
def probePrimaryReady (bucket : String) : ClusterPlan Unit := do
  let status ← fetch
  match status.find bucket primaryName with
  | [] => .fail (unready [(primaryName, "notFound")])
  | entries =>
    match entries.filter fun e => !isReady e with
    | [] => return ()
    | offline => .fail (unready (states offline))

/-- Succeeds once no primary index of a bucket is listed. -/
def probePrimaryGone (bucket : String) : ClusterPlan Unit := do
  let status ← fetch
  match status.find bucket primaryName with
  | [] => return ()
  | present => .fail (unready (states present))

end IndexStatus

end KeyspaceLink
