import KeyspaceLink.Access.Statement
import KeyspaceLink.Proofs.DatabaseSettings
import KeyspaceLink.Proofs.Delivery
import KeyspaceLink.Proofs.Outcomes

/-! Options that are whole numbers. Each tells the last number it took, and a value it does not
take leaves that in place. Of a number of retries only what half a word holds is kept. -/

namespace KeyspaceLink

namespace OptionValue

/-- The text of a whole number that a word with a sign holds. -/
inductive IsWord : List Char → Int → Prop
  | natural {sign digits : List Char} (hsign : sign = [] ∨ sign = ['+']) (hne : digits ≠ [])
      (hdigits : ∀ c ∈ digits, c.isDigit = true) (hlt : digitsValue 0 digits < word63) :
      IsWord (sign ++ digits) (digitsValue 0 digits)
  | negative {digits : List Char} (hne : digits ≠ []) (hdigits : ∀ c ∈ digits, c.isDigit = true)
      (hle : digitsValue 0 digits ≤ word63) : IsWord ('-' :: digits) (-(digitsValue 0 digits : Int))

/-- A whole number is given as such or as its text, around which blanks may stand. -/
inductive IsInteger : OptionValue → Int → Prop
  | int (i : Int) : IsInteger (.int i) i
  | text {s : String} {i : Int} (h : IsWord (trim s.toList) i) : IsInteger (.text s) i

theorem readSigned?_minus (bound : Nat) (s : List Char) :
    readSigned? bound ('-' :: s) =
      (readDigits? (bound + 1) s).map fun n : Nat => -(n : Int) := by
  rw [readSigned?]
  cases readDigits? (bound + 1) s <;> rfl

theorem readSigned?_of_no_minus {bound : Nat} {s : List Char} (h : s.head? ≠ some '-') :
    readSigned? bound s = (readUnsigned? bound s).map Int.ofNat := by
  rw [readSigned?.eq_def]
  split
  · exact absurd rfl h
  · rfl

theorem head?_ne_minus {sign digits : List Char} (hsign : sign = [] ∨ sign = ['+'])
    (hdigits : ∀ c ∈ digits, c.isDigit = true) : (sign ++ digits).head? ≠ some '-' := by
  rcases hsign with rfl | rfl
  · exact fun hhead => absurd (hdigits '-' (List.mem_of_head? hhead)) (by decide)
  · exact fun hhead => absurd (Option.some.inj hhead) (by decide)

theorem readSigned?_eq_some_iff {s : List Char} {i : Int} :
    readSigned? word63 s = some i ↔ IsWord s i := by
  constructor
  · intro h
    by_cases hminus : s.head? = some '-'
    · obtain ⟨digits, rfl⟩ := List.head?_eq_some_iff.mp hminus
      rw [readSigned?_minus] at h
      obtain ⟨n, hread, rfl⟩ := Option.map_eq_some_iff.mp h
      obtain ⟨hne, hdigits, rfl, hlt⟩ := readDigits?_eq_some_iff.mp hread
      exact .negative hne hdigits (Nat.le_of_lt_succ hlt)
    · rw [readSigned?_of_no_minus hminus] at h
      obtain ⟨n, hread, rfl⟩ := Option.map_eq_some_iff.mp h
      obtain ⟨sign, digits, rfl, hsign, hvalue⟩ := readUnsigned?_eq_some_iff.mp hread
      obtain ⟨hne, hdigits, rfl, hlt⟩ := readDigits?_eq_some_iff.mp hvalue
      exact .natural hsign hne hdigits hlt
  · intro h
    cases h with
    | natural hsign hne hdigits hlt =>
      rw [readSigned?_of_no_minus (head?_ne_minus hsign hdigits)]
      exact Option.map_eq_some_iff.mpr ⟨_, readUnsigned?_eq_some_iff.mpr
        ⟨_, _, rfl, hsign, readDigits?_eq_some_iff.mpr ⟨hne, hdigits, rfl, hlt⟩⟩, rfl⟩
    | negative hne hdigits hle =>
      rw [readSigned?_minus]
      exact Option.map_eq_some_iff.mpr ⟨_, readDigits?_eq_some_iff.mpr
        ⟨hne, hdigits, rfl, Nat.lt_succ_of_le hle⟩, rfl⟩

variable {v : OptionValue} {n : Nat}

theorem int?_eq_some_iff {i : Int} : v.int? = some i ↔ v.IsInteger i := by
  cases v with
  | text s =>
    rw [int?, readSigned?_eq_some_iff]
    constructor
    · exact .text
    · rintro ⟨⟩
      assumption
  | int j =>
    constructor
    · rintro ⟨⟩
      exact .int i
    · rintro ⟨⟩
      rfl
  | double x => exact iff_of_false (by simp [int?]) (by rintro ⟨⟩)
  | bytes content => exact iff_of_false (by simp [int?]) (by rintro ⟨⟩)

theorem natural?_eq_some_iff : v.natural? = some n ↔ v.IsInteger n := by
  rw [natural?, Option.bind_eq_some_iff, ← int?_eq_some_iff]
  constructor
  · rintro ⟨i, hi, hn⟩
    obtain ⟨hle, hsome⟩ := Option.ite_none_right_eq_some.mp hn
    obtain rfl := Option.some.inj hsome
    rwa [Int.toNat_of_nonneg hle]
  · intro h
    exact ⟨n, h, by simp⟩

theorem positive?_eq_some_iff : Statement.positive? v = some n ↔ 1 ≤ n ∧ v.IsInteger n := by
  rw [Statement.positive?, Option.filter_eq_some_iff, natural?_eq_some_iff, bne_iff_ne,
    Nat.one_le_iff_ne_zero, and_comm]

end OptionValue

/-- A call that sets an option: its key and a value. -/
abbrev OptionCall := String × OptionValue

/-- A value that an option of whole numbers from `least` on takes. -/
def OptionCall.Accepted (call : OptionCall) (least n : Nat) : Prop :=
  least ≤ n ∧ call.2.IsInteger n

/-- No call gives this option a value that it takes. -/
def Untouched (key : String) (least : Nat) (calls : List OptionCall) : Prop :=
  ∀ call ∈ calls, call.1 = key → ∀ n, ¬ call.Accepted least n

/-- The last number that calls give this option. -/
def LastGiven (key : String) (least : Nat) (calls : List OptionCall) (n : Nat) : Prop :=
  ∃ before v after, calls = before ++ (key, v) :: after ∧ OptionCall.Accepted (key, v) least n ∧
    Untouched key least after

section Keeping

variable {σ : Type}

/-- What holds after calls that set options; one that fails changes nothing. -/
def afterCalls (set : σ → String → OptionValue → Except Failure σ) (s : σ)
    (calls : List OptionCall) : σ :=
  calls.foldl (fun s call => (set s call.1 call.2).toOption.getD s) s

theorem afterCalls_append (set : σ → String → OptionValue → Except Failure σ) (s : σ)
    (before after : List OptionCall) :
    afterCalls set s (before ++ after) = afterCalls set (afterCalls set s before) after :=
  List.foldl_append

theorem afterCalls_cons (set : σ → String → OptionValue → Except Failure σ) (s : σ)
    (call : OptionCall) (calls : List OptionCall) : afterCalls set s (call :: calls) =
      afterCalls set ((set s call.1 call.2).toOption.getD s) calls :=
  rfl

/-- An option of whole numbers from `least` on, which keeps of each what `kept` leaves. -/
structure IntegerOption (set : σ → String → OptionValue → Except Failure σ)
    (get : σ → String → Except Failure OptionValue) (key : String) (least : Nat)
    (kept : Nat → Nat) : Prop where
  accepts {s : σ} {v : OptionValue} {n : Nat} (h : OptionCall.Accepted (key, v) least n) :
    ∃ s', set s key v = .ok s' ∧ get s' key = .ok (.int (kept n))
  refuses {s : σ} {v : OptionValue} (h : ∀ n, ¬ OptionCall.Accepted (key, v) least n) :
    set s key v = .error (.badOption key v.shown)
  others {s s' : σ} {other : String} {v : OptionValue} (hother : other ≠ key)
    (h : set s other v = .ok s') : get s' key = get s key

namespace IntegerOption

variable {set : σ → String → OptionValue → Except Failure σ}
  {get : σ → String → Except Failure OptionValue} {key : String} {least n : Nat}
  {kept : Nat → Nat} {calls : List OptionCall}

theorem get_of_call (h : IntegerOption set get key least kept) {call : OptionCall}
    (hcall : call.1 = key → ∀ n, ¬ call.Accepted least n) (s : σ) :
    get ((set s call.1 call.2).toOption.getD s) key = get s key := by
  obtain ⟨other, v⟩ := call
  by_cases hkey : other = key
  · subst hkey
    rw [h.refuses (hcall rfl)]
    rfl
  · cases hset : set s other v with
    | error e => rfl
    | ok s' => exact h.others hkey hset

theorem get_of_untouched (h : IntegerOption set get key least kept)
    (hcalls : Untouched key least calls) (s : σ) :
    get (afterCalls set s calls) key = get s key := by
  induction calls generalizing s with
  | nil => rfl
  | cons call calls ih =>
    obtain ⟨hcall, hrest⟩ := List.forall_mem_cons.mp hcalls
    exact (ih hrest _).trans (h.get_of_call hcall s)

theorem get_of_lastGiven (h : IntegerOption set get key least kept)
    (hlast : LastGiven key least calls n) (s : σ) :
    get (afterCalls set s calls) key = .ok (.int (kept n)) := by
  obtain ⟨before, v, after, rfl, haccepted, hafter⟩ := hlast
  -- What was set before does not matter: the number is taken in whatever state that left.
  obtain ⟨s', hset, hget⟩ := h.accepts (s := afterCalls set s before) haccepted
  have hstate : afterCalls set s (before ++ (key, v) :: after) = afterCalls set s' after := by
    rw [afterCalls_append, afterCalls_cons, hset]
    rfl
  rw [hstate, h.get_of_untouched hafter, hget]

end IntegerOption

/-- After calls on a state the option tells the last number given that it takes, and without one
it is as before. It takes no other value then. -/
structure Keeps (set : σ → String → OptionValue → Except Failure σ)
    (get : σ → String → Except Failure OptionValue) (key : String) (least : Nat)
    (kept : Nat → Nat) (s : σ) (calls : List OptionCall) : Prop where
  last {n : Nat} (h : LastGiven key least calls n) :
    get (afterCalls set s calls) key = .ok (.int (kept n))
  untouched (h : Untouched key least calls) : get (afterCalls set s calls) key = get s key
  takes_iff {v : OptionValue} :
    (∃ s', set (afterCalls set s calls) key v = .ok s') ↔
      ∃ n, OptionCall.Accepted (key, v) least n
  refuses {v : OptionValue} (h : ∀ n, ¬ OptionCall.Accepted (key, v) least n) :
    set (afterCalls set s calls) key v = .error (.badOption key v.shown)

theorem IntegerOption.keeps {set : σ → String → OptionValue → Except Failure σ}
    {get : σ → String → Except Failure OptionValue} {key : String} {least : Nat}
    {kept : Nat → Nat} (h : IntegerOption set get key least kept) (s : σ)
    (calls : List OptionCall) : Keeps set get key least kept s calls where
  last hlast := h.get_of_lastGiven hlast s
  untouched hcalls := h.get_of_untouched hcalls s
  takes_iff {v} := by
    constructor
    · rintro ⟨s', hset⟩
      by_contra hnone
      rw [h.refuses (not_exists.mp hnone)] at hset
      cases hset
    · rintro ⟨n, hn⟩
      obtain ⟨s', hset, -⟩ := h.accepts (s := afterCalls set s calls) hn
      exact ⟨s', hset⟩
  refuses := h.refuses

end Keeping

section Instances

variable {v : OptionValue} {n : Nat} {key other : String}

theorem accepted_zero_iff : OptionCall.Accepted (key, v) 0 n ↔ v.natural? = some n := by
  rw [OptionCall.Accepted, OptionValue.natural?_eq_some_iff, and_iff_right (Nat.zero_le n)]

theorem not_accepted_of_none (h : v.natural? = none) (n : Nat) :
    ¬ OptionCall.Accepted (key, v) 0 n := by
  rw [accepted_zero_iff, h]
  exact (Option.some_ne_none n).symm

theorem accepted_one_iff : OptionCall.Accepted (key, v) 1 n ↔ Statement.positive? v = some n :=
  OptionValue.positive?_eq_some_iff.symm

namespace Database

def connectTimeoutKey : String := "couchbase.http.connect_timeout_ms"
def readTimeoutKey : String := "couchbase.http.read_timeout_ms"
def maxRetriesKey : String := "couchbase.http.max_retries"

open DatabaseOption

variable {d d' : Database}

theorem accept_eq_ok {α β : Type} {read : OptionValue → Option α} {f : α → β} {b : β}
    (h : (do return f (← v.accept key read) : Except Failure β) = .ok b) :
    ∃ a, read v = some a ∧ f a = b := by
  cases hread : read v with
  | none =>
    rw [accept_bind, hread] at h
    cases h
  | some a =>
    rw [accept_bind, hread] at h
    exact ⟨a, rfl, Except.ok.inj h⟩

theorem mem_fixedKeys_of_ofKey? {option : DatabaseOption} (h : ofKey? key = some option)
    (hlink : ∀ name, option ≠ .link name) : (key, option) ∈ fixedKeys := by
  rcases ofKey?_eq_some h with hmem | ⟨name, -, -, rfl, -⟩
  · exact hmem
  · exact absurd rfl (hlink name)

/-- Setting an option leaves the settings of the client that have other keys as they are. -/
theorem http_of_set (h : d.set key v = .ok d') :
    (key ≠ connectTimeoutKey → d'.http.connectTimeout = d.http.connectTimeout) ∧
      (key ≠ readTimeoutKey → d'.http.readTimeout = d.http.readTimeout) ∧
      (key ≠ maxRetriesKey → d'.http.maxRetries = d.http.maxRetries) := by
  cases hkey : ofKey? key with
  | none =>
    rw [set, hkey] at h
    cases h
  | some option =>
    have hfixed := mem_fixedKeys_of_ofKey? hkey
    rw [set, hkey] at h
    cases option with
    | uri | username | password | logFile | link name =>
      obtain ⟨a, -, rfl⟩ := accept_eq_ok h
      exact ⟨fun _ => rfl, fun _ => rfl, fun _ => rfl⟩
    | connectTimeout =>
      obtain ⟨n, -, rfl⟩ := accept_eq_ok h
      have hname : key = connectTimeoutKey := by
        simpa [fixedKeys, connectTimeoutKey] using hfixed (by simp)
      exact ⟨fun hother => absurd hname hother, fun _ => rfl, fun _ => rfl⟩
    | readTimeout =>
      obtain ⟨n, -, rfl⟩ := accept_eq_ok h
      have hname : key = readTimeoutKey := by
        simpa [fixedKeys, readTimeoutKey] using hfixed (by simp)
      exact ⟨fun _ => rfl, fun hother => absurd hname hother, fun _ => rfl⟩
    | maxRetries =>
      obtain ⟨n, -, rfl⟩ := accept_eq_ok h
      have hname : key = maxRetriesKey := by
        simpa [fixedKeys, maxRetriesKey] using hfixed (by simp)
      exact ⟨fun _ => rfl, fun _ => rfl, fun hother => absurd hname hother⟩

/-- A number among the settings of the client, with what setting it and telling it do. -/
theorem integerOption_of_field (update : HttpSettings → Nat → HttpSettings)
    (field : HttpSettings → Nat) {kept : Nat → Nat}
    (hset : ∀ d v, Database.set d key v =
      do return { d with http := update d.http (← v.accept key OptionValue.natural?) })
    (hget : ∀ d, Database.get d .int key = .ok (.int (field d.http)))
    (hfield : ∀ http n, field (update http n) = kept n)
    (hothers : ∀ d d' other v, other ≠ key → Database.set d other v = .ok d' →
      field d'.http = field d.http) :
    IntegerOption Database.set (fun d => d.get .int) key 0 kept where
  accepts {d v n} h := by
    refine ⟨{ d with http := update d.http n }, ?_, ?_⟩
    · rw [hset, accept_bind, accepted_zero_iff.mp h]
      rfl
    · rw [hget, hfield]
  refuses {d v} h := by
    have hnone : v.natural? = none :=
      Option.eq_none_iff_forall_ne_some.mpr fun n hn => h n (accepted_zero_iff.mpr hn)
    rw [hset, accept_bind, hnone]
  others {d d' other v} hother h := by
    rw [hget, hget, hothers d d' other v hother h]

theorem integerOption_connectTimeout :
    IntegerOption Database.set (fun d => d.get .int) connectTimeoutKey 0 id :=
  integerOption_of_field (fun http n => { http with connectTimeout := n })
    HttpSettings.connectTimeout (fun _ _ => rfl) (fun _ => rfl) (fun _ _ => rfl)
    fun _ _ _ _ hother h => (http_of_set h).1 hother

theorem integerOption_readTimeout :
    IntegerOption Database.set (fun d => d.get .int) readTimeoutKey 0 id :=
  integerOption_of_field (fun http n => { http with readTimeout := n })
    HttpSettings.readTimeout (fun _ _ => rfl) (fun _ => rfl) (fun _ _ => rfl)
    fun _ _ _ _ hother h => (http_of_set h).2.1 hother

theorem integerOption_maxRetries :
    IntegerOption Database.set (fun d => d.get .int) maxRetriesKey 0 (· % word32) :=
  integerOption_of_field (fun http n => { http with maxRetries := .ofNat n })
    (fun http => http.maxRetries.toNat) (fun _ _ => rfl) (fun _ => rfl) (fun _ _ => rfl)
    fun _ _ _ _ hother h => congrArg UInt32.toNat ((http_of_set h).2.2 hother)

end Database

theorem Statement.integerOption_batchSize :
    IntegerOption Statement.set (fun s => s.get .int) Statement.batchSizeKey 1 id where
  accepts {s v n} h := by
    refine ⟨{ s with batchSize := n }, ?_, ?_⟩
    · rw [set, if_pos (beq_self_eq_true _), Database.accept_bind, accepted_one_iff.mp h]
      rfl
    · simp [get]
  refuses {s v} h := by
    have hnone : positive? v = none :=
      Option.eq_none_iff_forall_ne_some.mpr fun n hn => h n (accepted_one_iff.mpr hn)
    rw [set, if_pos (beq_self_eq_true _), Database.accept_bind, hnone]
  others {s s' other v} hother h := by
    rw [set, if_neg (by simpa using hother)] at h
    cases h

end Instances

section Retries

variable {Call : Type} {Reply : Call → Type}

open Plan

/-- A client sends a request again up to so often, if that is worth it, and never more often. -/
structure AllowsRetries (http : HttpClient) (n : Nat) : Prop where
  all {request : HttpRequest} {failed : List HttpOutcome} (last : HttpOutcome)
    (hrequest : request.url.isRequestable = true) (hlength : failed.length = n)
    (hfailed : ∀ outcome ∈ failed, MayRetry request.method outcome) :
    Conversation (http.execute request)
      (failedSends request http.settings.retryDelay 1 failed ++ [.answered request last])
      (reported request (n + 1) last)
  most {request : HttpRequest} {talk : List HttpEvent} {told : Except Failure HttpReply}
    (h : Conversation (http.execute request) talk told) : (asked talk).length ≤ n + 1

theorem allowsRetries {http : HttpClient} (h : http.settings.maxRetries.toNat + 1 < word32) :
    AllowsRetries http http.settings.maxRetries.toNat where
  all {request failed} last hrequest hlength hfailed := by
    rw [conversation_execute_iff, if_pos hrequest]
    exact ⟨failed, last, rfl, Nat.le_of_eq hlength, hlength ▸ h, hfailed, fun _ => hlength,
      by rw [hlength]⟩
  most {request talk told} h := by
    obtain ⟨sends, hsends, heq⟩ := asked_execute h
    rwa [heq, List.length_replicate]

variable {client : RestClient} {http : HttpClient} {settings : HttpSettings}

theorem settings_of {credentials : Credentials} {security : Security}
    (h : HttpClient.of settings credentials security = .ok http) : http.settings = settings := by
  obtain ⟨stores, -, hclient⟩ := Json.bind_eq_ok_iff.mp h
  split at hclient
  · cases hclient
    rfl
  · cases hclient

theorem yields_bootstrapFrom (http : HttpClient) (failures : List String) (seeds : List Host) :
    (RestClient.bootstrapFrom http failures seeds).Yields fun client => client.http = http := by
  -- Each seed is tried over the same client; only the failures told at the end grow.
  induction seeds generalizing failures with
  | nil => exact .fail _
  | cons seed rest ih =>
    rw [RestClient.bootstrapFrom]
    refine .last _ fun request => .last _ fun told => ?_
    cases told with
    | error e => exact ih _
    | ok reply =>
      dsimp only
      split
      · exact .fail _
      split
      · exact .done rfl
      · exact ih _

theorem yields_ofExcept {α : Type} (x : Except Failure α) :
    (Plan.ofExcept x : Plan Call Reply α).Yields fun a => x = .ok a := by
  cases x with
  | ok a => exact .done rfl
  | error e => exact .fail e

theorem yields_connect (d : Database) (stores : Stores) : (d.connect stores).Yields fun opened =>
    opened.client.http.settings.maxRetries = d.http.maxRetries := by
  refine .last _ fun p => .last _ fun security => .last _ fun credentials => ?_
  refine (yields_ofExcept _).bind fun http hhttp => ?_
  refine (yields_bootstrapFrom http [] p.hosts).bind fun located hlocated => .last _ fun _ => ?_
  refine .done ?_
  rw [hlocated, settings_of hhttp]
  rfl

end Retries

open Database

theorem retries_of_connect {d : Database} {stores : Stores} {talk : List HttpEvent}
    {opened : Opened} {n : Nat} (hget : d.get .int maxRetriesKey = .ok (.int n))
    (hcounted : n + 1 < word32)
    (h : Plan.Conversation (d.connect stores) talk (.ok opened)) :
    AllowsRetries opened.client.http n := by
  have hretries : opened.client.http.settings.maxRetries.toNat = n := by
    rw [h.yields (yields_connect d stores)]
    cases hget
    rfl
  rw [← hretries] at hcounted ⊢
  exact allowsRetries hcounted

/-- Whole numbers are kept as they are given, the number of retries exactly if half a word holds
it; of a larger one only the remainder is. A session retries as often as its database tells, if
half a word holds the tries too. -/
theorem integer_options_are_kept (d : Database) (s : Statement) (calls : List OptionCall) :
    Keeps Database.set (fun d => d.get .int) connectTimeoutKey 0 id d calls ∧
      Keeps Database.set (fun d => d.get .int) readTimeoutKey 0 id d calls ∧
      Keeps Database.set (fun d => d.get .int) maxRetriesKey 0 (· % word32) d calls ∧
      Keeps Statement.set (fun s => s.get .int) Statement.batchSizeKey 1 id s calls ∧
      (∀ n, LastGiven maxRetriesKey 0 calls n →
        ((afterCalls Database.set d calls).get .int maxRetriesKey = .ok (.int n) ↔ n < word32)) ∧
      ∀ (n : Nat) (stores : Stores) (talk : List HttpEvent) (opened : Opened),
        (afterCalls Database.set d calls).get .int maxRetriesKey = .ok (.int n) → n + 1 < word32 →
          Plan.Conversation ((afterCalls Database.set d calls).connect stores) talk (.ok opened) →
            AllowsRetries opened.client.http n := by
  refine ⟨integerOption_connectTimeout.keeps d calls, integerOption_readTimeout.keeps d calls,
    integerOption_maxRetries.keeps d calls, Statement.integerOption_batchSize.keeps s calls,
    fun n hlast => ?_, fun n stores talk opened => retries_of_connect⟩
  have hremainder : n % word32 = n ↔ n < word32 := Nat.mod_eq_iff_lt (by decide)
  have hget := (integerOption_maxRetries.keeps d calls).last hlast
  rw [hget, ← hremainder, Except.ok.injEq, OptionValue.int.injEq, Int.ofNat_inj]

theorem retries_of_series :
    let calls := [("uri", OptionValue.text "adbc:couchbase:[::1]?user=u&password=p"),
      (maxRetriesKey, .text " +007"), (maxRetriesKey, .int (-1)), (readTimeoutKey, .int 5),
      (maxRetriesKey, .text "1.5")]
    let d : Database := afterCalls Database.set {} calls
    LastGiven maxRetriesKey 0 calls 7 ∧ d.get .int maxRetriesKey = .ok (.int 7) ∧
      ∃ talk opened, Plan.Conversation (d.connect {}) talk (.ok opened) ∧
        AllowsRetries opened.client.http 7 := by
  intro calls d
  have hlast : LastGiven maxRetriesKey 0 calls 7 := by
    refine ⟨[("uri", .text "adbc:couchbase:[::1]?user=u&password=p")], .text " +007",
      [(maxRetriesKey, .int (-1)), (readTimeoutKey, .int 5), (maxRetriesKey, .text "1.5")], rfl,
      accepted_zero_iff.mpr (by decide +kernel), ?_⟩
    simp only [Untouched, List.forall_mem_cons]
    exact ⟨fun _ => not_accepted_of_none (by decide +kernel), fun hkey => absurd hkey (by decide),
      fun _ => not_accepted_of_none (by decide +kernel), List.forall_mem_nil _⟩
  have hkept := integer_options_are_kept {} {} calls
  have hget : d.get .int maxRetriesKey = .ok (.int 7) := hkept.2.2.1.last hlast
  let answer : HttpRequest → Nat → Unit → HttpOutcome × Unit :=
    fun _ _ s => (.ok ⟨200, ""⟩, s)
  have hopens : ((d.connect {}).run answer 0 ()).1.isOk = true := by decide +kernel
  cases hopened : ((d.connect {}).run answer 0 ()).1 with
  | error e =>
    rw [hopened] at hopens
    cases hopens
  | ok opened =>
    have hrun := Plan.conversation_of_run_ok hopened
    exact ⟨hlast, hget, _, opened, hrun, hkept.2.2.2.2.2 7 {} _ opened hget (by decide) hrun⟩

/-- A number of retries that half a word does not hold is taken all the same. -/
theorem number_of_retries_is_cut :
    OptionCall.Accepted (maxRetriesKey, .int 4294967296) 0 4294967296 ∧
      ∃ d, Database.set {} maxRetriesKey (.int 4294967296) = .ok d ∧
        d.get .int maxRetriesKey = .ok (.int 0) :=
  ⟨⟨Nat.zero_le _, .int _⟩, _, rfl, rfl⟩

end KeyspaceLink
