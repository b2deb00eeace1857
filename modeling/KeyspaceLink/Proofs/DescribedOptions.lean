import KeyspaceLink.Link.Property
import KeyspaceLink.Proofs.LinkSettings

/-! What the descriptors of a link tell: the settings it was read with, each by a value that is
understood as the setting. The level of logging is told as its default, whatever it is. -/

namespace KeyspaceLink

namespace Parameters

/-- The values that are told of settings. The password is not, nor is the level of logging. -/
def Settings.told (s : Settings) : List (String × String) :=
  [(OptionName.defaultBucket, s.defaultBucket.getD ""),
   (OptionName.sslEnabled, toString s.sslEnabled),
   (OptionName.verifyCertificate, toString s.verifyCertificate),
   (OptionName.verifyHostnames, toString s.verifyHostnames),
   (OptionName.user, s.username.getD ""),
   (OptionName.password, ""),
   (OptionName.samplingSize, toString s.samplingSize),
   (OptionName.scanConsistency, s.scanConsistency.text),
   (OptionName.loggingLevel, LoggingLevel.severe.text)]

/-- The settings that the told values are understood as. -/
def Settings.retold (s : Settings) : Settings :=
  { s with
    username := some (s.username.getD "")
    password := some ""
    defaultBucket := some (s.defaultBucket.getD "")
    loggingLevel := .severe
    loggingLevelGiven := true }

theorem isFlag_toString (b : Bool) : IsFlag (toString b) b := by
  rw [isFlag_iff]
  cases b <;> decide

theorem isSize_toString {n : Nat} (h : n < word64) : IsSize (toString n) n := by
  refine ⟨[], [], (toString n).toList, [], by simp, List.forall_mem_nil _, List.forall_mem_nil _,
    .inl rfl, ?_, fun c => isDigit_of_mem_toString, ?_, h⟩
  · rw [toList_toString]
    exact Nat.toDigits_ne_nil
  · rw [toList_toString, digitsValue_toDigits]

theorem decided_told {s : Settings} (hsize : s.samplingSize < word64) :
    s.retold.Decided (fun name => s.told.lookup name) none := by
  -- One case for each setting, in the order of `Settings.Decided`.
  constructor
  · rfl
  · rfl
  · exact .read (isFlag_toString _)
  · exact .read (isFlag_toString _)
  · exact .read (isFlag_toString _)
  · exact .option (by simp)
  · exact .read (isSize_toString hsize)
  · exact .read (beq_self_eq_true _)
  · exact .read (beq_self_eq_true _)
  · rfl

theorem lt_of_understood_size {given : Option String} {n : Nat}
    (h : Understood IsSize defaultSamplingSize given n) : n < word64 := by
  cases h with
  | read h =>
    obtain ⟨-, -, -, -, -, -, -, -, -, -, -, hlt⟩ := h
    exact hlt
  | unknown => decide
  | unset => decide

theorem samplingSize_lt_of_read {uri : String} {overlay : Overlay} {p : Parameters}
    (h : read uri overlay = .ok p) : p.settings.samplingSize < word64 := by
  obtain ⟨body, hosts, -, -, -, rfl⟩ := read_eq_ok_iff.mp h
  exact lt_of_understood_size (decided_iff.mpr rfl).samplingSize

end Parameters

namespace Property

open Parameters

variable {uri : String} {overlay : Overlay} {p : Parameters}

def pair (d : Property) : String × String := (d.name, d.value)

theorem describe_of_read (h : Parameters.read uri overlay = .ok p) :
    describe uri overlay =
      defaults.map fun d => { d with value := (told p d.name).getD d.value } := by
  rw [describe, h]

theorem pairs_of_read (h : Parameters.read uri overlay = .ok p) :
    (describe uri overlay).map pair = p.settings.told := by
  rw [describe_of_read h, List.map_map]
  rfl

theorem describe_of_failure {e : Failure} (h : Parameters.read uri overlay = .error e) :
    describe uri overlay = defaults := by
  rw [describe, h]

/-- What a descriptor says beside its value. -/
def caption (d : Property) : String × String × List String := (d.name, d.description, d.choices)

theorem captions_describe (uri : String) (overlay : Overlay) :
    (describe uri overlay).map caption = defaults.map caption := by
  cases h : Parameters.read uri overlay with
  | error e => rw [describe_of_failure h]
  | ok p =>
    rw [describe_of_read h, List.map_map]
    rfl

theorem value_mem_choices (uri : String) (overlay : Overlay) :
    ∀ d ∈ describe uri overlay, d.choices ≠ [] → d.value ∈ d.choices := by
  cases h : Parameters.read uri overlay with
  | error e =>
    rw [describe_of_failure h]
    decide +kernel
  | ok p =>
    have htruth (b : Bool) : toString b ∈ truthChoices := by cases b <;> decide
    have hconsistency (c : ScanConsistency) : c.text ∈ [ScanConsistency.notBounded.text,
        ScanConsistency.requestPlus.text] := by cases c <;> decide
    have hlevel : LoggingLevel.severe.text ∈ LoggingLevel.levels.map LoggingLevel.text := by decide
    rw [describe_of_read h, List.forall_mem_map]
    simp only [defaults, List.forall_mem_cons]
    exact ⟨fun h => absurd rfl h, fun _ => htruth _, fun _ => htruth _, fun _ => htruth _,
      fun h => absurd rfl h, fun h => absurd rfl h, fun h => absurd rfl h,
      fun _ => hconsistency _, fun _ => hlevel, List.forall_mem_nil _⟩

theorem told_level_iff (s : Settings) :
    s.told.lookup OptionName.loggingLevel = some s.loggingLevel.text ↔
      s.loggingLevel = .severe := by
  have htold : s.told.lookup OptionName.loggingLevel = some LoggingLevel.severe.text := rfl
  rw [htold]
  cases s.loggingLevel <;> decide

/-- Each recognized option is described once, by one of its choices where it has some. Of a link
that is read its settings are told, and they are what the told values mean, a level other than
severe apart; of another one the defaults. -/
theorem described_values_are_resolved (uri : String) (overlay : Overlay) :
    ((describe uri overlay).map Property.name).Perm OptionName.recognized ∧
      (describe uri overlay).map caption = defaults.map caption ∧
      (∀ d ∈ describe uri overlay, d.choices ≠ [] → d.value ∈ d.choices) ∧
      (∀ p, Parameters.read uri overlay = .ok p →
        (describe uri overlay).map pair = p.settings.told ∧
        p.settings.retold.Decided (fun name => ((describe uri overlay).map pair).lookup name) none ∧
        (((describe uri overlay).map pair).lookup OptionName.loggingLevel =
          some p.settings.loggingLevel.text ↔ p.settings.loggingLevel = .severe)) ∧
      ∀ e, Parameters.read uri overlay = .error e → describe uri overlay = defaults := by
  have hnames : (describe uri overlay).map Property.name = defaults.map Property.name := by
    have hfirst := congrArg (List.map Prod.fst) (captions_describe uri overlay)
    rwa [List.map_map, List.map_map] at hfirst
  refine ⟨?_, captions_describe uri overlay, value_mem_choices uri overlay, fun p h => ?_,
    fun e h => describe_of_failure h⟩
  · rw [hnames]
    decide +kernel
  · rw [pairs_of_read h]
    exact ⟨rfl, decided_told (samplingSize_lt_of_read h), told_level_iff p.settings⟩

theorem described_values_of_overlaid_link :
    let uri := "adbc:couchbase:h/b.c?User=u&defaultBucket=x&verifyHostnames=0&meta.sampling.size=%2B007"
    let overlay := [("SSLENABLED", "1"), ("query.scan.consistency", "Request_Plus"),
      ("password", "x")]
    ∃ p, Parameters.read uri overlay = .ok p ∧ (describe uri overlay).map pair = p.settings.told ∧
      (describe uri overlay).map Property.value =
        ["b.c", "true", "true", "false", "u", "", "7", "request_plus", "severe"] := by
  intro uri overlay
  have hvalues : (describe uri overlay).map Property.value =
      ["b.c", "true", "true", "false", "u", "", "7", "request_plus", "severe"] := by
    decide +kernel
  have hread : (Parameters.read uri overlay).toBool = true := by decide +kernel
  cases h : Parameters.read uri overlay with
  | error e =>
    rw [h] at hread
    cases hread
  | ok p => exact ⟨p, rfl, ((described_values_are_resolved uri overlay).2.2.2.1 p h).1, hvalues⟩

/-- A level that a link sets is not told. -/
theorem level_is_told_as_severe :
    let uri := "adbc:couchbase:h?loggingLevel=fine"
    (Parameters.read uri []).toOption.map Parameters.loggingLevel = some .fine ∧
      ((describe uri []).map pair).lookup OptionName.loggingLevel = some "severe" ∧
      LoggingLevel.fine.text = "fine" := by
  decide +kernel

end Property

end KeyspaceLink
