import KeyspaceLink.Cluster.Call
import KeyspaceLink.Cluster.Transport
import KeyspaceLink.Link.Url

/-! Requests over HTTP and their retries. A request that could not be delivered is sent
again whatever its method; one that may have been is sent again only if that does no harm. -/

namespace KeyspaceLink

structure HttpRequest where
  method : Method
  url : Url
  body : Option String
  contentType : Option String
  authorization : Option String
  userAgent : String
deriving DecidableEq, Repr

structure HttpReply where
  status : Nat
  body : String
deriving DecidableEq, Repr

/-- How far a request without a reply got. -/
inductive FaultKind
  | connect
  | timeout
  | other
deriving DecidableEq, Repr

structure SendFault where
  kind : FaultKind
  text : String
deriving DecidableEq, Repr

abbrev HttpOutcome := Except SendFault HttpReply

abbrev HttpPlan := Plan HttpRequest fun _ => HttpOutcome

/-- Methods that may be repeated: a repeated read or deletion does no harm. -/
def Method.isIdempotent : Method → Bool
  | get | head | delete => true
  | post | other _ => false

def isRetryableStatus (status : Nat) : Bool := [429, 502, 503, 504].contains status

def isRetryable (method : Method) : HttpOutcome → Bool
  | .ok reply => method.isIdempotent && isRetryableStatus reply.status
  | .error fault => fault.kind == .connect || (method.isIdempotent && fault.kind == .timeout)

/-- The pause before the retry after `tried` tries. -/
def retryPause (delay tried : Nat) : Nat := delay * min (Nat.pow 2 (tried - 1)) (word32 - 1)

def conclude (request : HttpRequest) (tried : Nat) : HttpOutcome → HttpPlan HttpReply
  | .ok reply => .done reply
  | .error fault =>
    .fail { Failure.cluster ("HTTP request to " ++ request.url.text ++ " failed after " ++
      toString tried ++ " attempts") with cause := some fault.text }

theorem toNat_add_one {n : UInt32} (h : n + 1 ≠ 0) : (n + 1).toNat = n.toNat + 1 := by
  have hnot : (n + 1).toNat ≠ 0 := fun heq => h (UInt32.toNat_inj.mp heq)
  rw [UInt32.toNat_add, UInt32.toNat_one] at hnot ⊢
  have := n.toNat_lt
  omega

/-- Sends a request of which `tried` tries were made, and again up to `most` times. The tries are
counted in a word of 32 bits too, so at the largest `most` the count passes its end before it
passes `most`. -/
def sendFrom (request : HttpRequest) (delay : Nat) (most tried : UInt32) : HttpPlan HttpReply :=
  if h : tried + 1 = 0 then .overflow
  else
    .call request fun outcome =>
      if isRetryable request.method outcome && tried + 1 ≤ most then
        .sleep (retryPause delay (tried + 1).toNat) (sendFrom request delay most (tried + 1))
      else conclude request (tried + 1).toNat outcome
termination_by word32 - tried.toNat
decreasing_by
  have := tried.toNat_lt
  rw [toNat_add_one h, word32]
  omega

/-- Tells of an address for which no request can be built. -/
def unbuilt (url : Url) : String := "builder error for url (" ++ url.text ++ ")"

namespace HttpClient

def request (c : HttpClient) (method : Method) (url : String) (content : Option (String × String)) :
    Except Failure HttpRequest :=
  match Url.read? url with
  | none => .error (.cluster "Failed to build request: builder error")
  | some url =>
    if url.host.isEmpty then .error (.cluster ("Failed to build request: " ++ unbuilt url))
    else
      .ok
        { method
          url := url.withoutUser
          body := content.map Prod.snd
          contentType := (content.map Prod.fst).filter fun type => !type.isEmpty
          authorization := c.credentials.header?
          userAgent := c.settings.userAgent }

/-- Sends a request. One whose address no request can be made for fails at the first try. -/
def execute (c : HttpClient) (request : HttpRequest) : HttpPlan HttpReply :=
  if request.url.isRequestable then
    sendFrom request c.settings.retryDelay c.settings.maxRetries 0
  else conclude request 1 (.error ⟨.other, unbuilt request.url⟩)

/-- Builds a request and sends it; `content` is a type of content and a body. -/
def send (c : HttpClient) (method : Method) (url : String) (content : Option (String × String)) :
    HttpPlan HttpReply := do
  let request ← Plan.ofExcept (c.request method url content)
  c.execute request

end HttpClient

end KeyspaceLink
