import KeyspaceLink.Proofs.LinkSettings

/-! The timeouts of a link. They are read from the forwarded options, and what is forwarded is
never the overlay. -/

namespace KeyspaceLink

/-- Each timeout is the span of time that its option spells, and none where it spells none. -/
structure Timeouts.Decided (t : Timeouts) (value : String → Option String) : Prop where
  connect : t.connect =
    (value OptionName.connectTimeout).bind fun v => Duration.read? v.toList
  query : t.query = (value OptionName.queryTimeout).bind fun v => Duration.read? v.toList
  management : t.management =
    (value OptionName.managementTimeout).bind fun v => Duration.read? v.toList

namespace Parameters

variable {uri : String} {overlay : Overlay} {p : Parameters}

theorem lookup_forwarded {name : String} {hostText : List Char} {hosts : List Host}
    {keyspace : Option (List Char)} {options : Option (List (String × String))}
    (hname : OptionName.isRecognized (lower name) = false) :
    (resolve uri hostText hosts keyspace options overlay).forwarded.lookup (lower name) =
      Sources.find? ⟨[], options.getD []⟩ name := by
  have hfind : Sources.find? ⟨[], options.getD []⟩ name =
      lastValue? (lower name) (options.getD []) := rfl
  have hkept : lastValue? (lower name)
      ((options.getD []).filter fun p => !OptionName.isRecognized p.1) =
        lastValue? (lower name) (options.getD []) := by
    apply lastValue?_filter
    intro v
    rw [hname]
    rfl
  rw [hfind, ← hkept]
  exact lookup_sorted

theorem isRecognized_of_mem_timeouts :
    ∀ name ∈ OptionName.timeouts, OptionName.isRecognized (lower name) = false := by
  decide +kernel

theorem read_of_other_overlay {other : Overlay} (hread : read uri overlay = .ok p) :
    ∃ q, read uri other = .ok q ∧ q.timeouts = p.timeouts := by
  obtain ⟨body, hosts, hbody, hhosts, hne, rfl⟩ := read_eq_ok_iff.mp hread
  exact ⟨_, read_eq_ok_iff.mpr ⟨body, hosts, hbody, hhosts, hne, rfl⟩, rfl⟩

/-- Each timeout of a link is the last one written in it, if that is a span of time. The
overlay takes no part, also where it has the option. -/
theorem timeouts_of_written_values (hread : read uri overlay = .ok p) :
    ∃ (l : LinkText) (value : String → Option String), l.Spells uri ∧
      (∀ name ∈ OptionName.timeouts, ∀ v, Given [] l.options name v ↔ v = value name) ∧
      p.timeouts.Decided value ∧
      ∀ other, ∃ q, read uri other = .ok q ∧ q.timeouts = p.timeouts := by
  obtain ⟨body, hosts, hbody, -, -, hp⟩ := read_eq_ok_iff.mp hread
  obtain ⟨l, hspells, rfl⟩ := LinkText.exists_spells hbody
  have hlookup : ∀ name ∈ OptionName.timeouts, p.forwarded.lookup (lower name) =
      Sources.find? ⟨[], (l.options.map readOptions).getD []⟩ name := by
    intro name hname
    rw [hp, lookup_forwarded (isRecognized_of_mem_timeouts name hname), l.parts_text]
  have hforwarded : p.timeouts = readTimeouts p.forwarded := (wellRead_of_read hread).timeouts
  refine ⟨l, fun name => p.forwarded.lookup (lower name), hspells, fun name hname v => ?_, ?_,
    fun other => read_of_other_overlay hread⟩
  · rw [← find?_eq_iff_given .nil, ← hlookup name hname]
    exact eq_comm
  · rw [hforwarded]
    exact ⟨rfl, rfl, rfl⟩

theorem timeouts_of_repeated_option :
    let options := "Timeout.queryTimeout=9s&timeout.querytimeout=2m;timeout.connectTimeout=x"
    let uri := "adbc:couchbase:h?" ++ options
    let overlay := [("timeout.queryTimeout", "5s"), ("timeout.managementTimeout", "1s")]
    ∃ p, read uri overlay = .ok p ∧ p.timeouts = ⟨none, some ⟨120000⟩, none⟩ ∧
      ∃ (l : LinkText) (value : String → Option String), l.Spells uri ∧
        (∀ name ∈ OptionName.timeouts, ∀ v, Given [] l.options name v ↔ v = value name) ∧
        p.timeouts.Decided value ∧ ∀ other, ∃ q, read uri other = .ok q ∧ q.timeouts = p.timeouts := by
  intro options uri overlay
  have htimeouts : (read uri overlay).toOption.map Parameters.timeouts =
      some ⟨none, some ⟨120000⟩, none⟩ := by
    decide +kernel
  cases hread : read uri overlay with
  | error e =>
    rw [hread] at htimeouts
    cases htimeouts
  | ok p =>
    rw [hread] at htimeouts
    exact ⟨p, rfl, Option.some.inj htimeouts, timeouts_of_written_values hread⟩

/-- A timeout that is set over a link stays the one written in the link. -/
theorem overlaid_timeout_is_not_used :
    let options := "timeout.queryTimeout=1s"
    let uri := "adbc:couchbase:h?" ++ options
    let overlay := [("timeout.queryTimeout", "5s")]
    ∃ p, read uri overlay = .ok p ∧ DistinctKeys overlay ∧
      Given overlay (some options.toList) OptionName.queryTimeout (some "5s") ∧
      Duration.read? "5s".toList = some ⟨5000⟩ ∧ p.timeouts.query = some ⟨1000⟩ := by
  intro options uri overlay
  have hquery : (read uri overlay).toOption.map (fun p => p.timeouts.query) =
      some (some ⟨1000⟩) := by
    decide +kernel
  have hgiven : Given overlay (some options.toList) OptionName.queryTimeout (some "5s") :=
    .overlaid List.mem_cons_self (by decide +kernel)
  cases hread : read uri overlay with
  | error e =>
    rw [hread] at hquery
    cases hquery
  | ok p =>
    rw [hread] at hquery
    exact ⟨p, rfl, List.pairwise_singleton _ _, hgiven, by decide +kernel, Option.some.inj hquery⟩

end Parameters

end KeyspaceLink
