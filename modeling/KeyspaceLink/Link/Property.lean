import KeyspaceLink.Link.Parameters

/-! Descriptions of the recognized options, with the values a link gives them. -/

namespace KeyspaceLink

structure Property where
  name : String
  value : String
  description : String
  choices : List String
deriving DecidableEq, Repr

namespace Property

def truthChoices : List String := ["true", "false"]

/-- Every recognized option with its default. -/
def defaults : List Property :=
  [⟨OptionName.defaultBucket, "",
      "Bucket opened while connecting; required by clusters older than 6.5.", []⟩,
   ⟨OptionName.sslEnabled, "false", "Enable ssl.", truthChoices⟩,
   ⟨OptionName.verifyCertificate, "true",
      "Set to false to use SSL without verifying the identity of the server.", truthChoices⟩,
   ⟨OptionName.verifyHostnames, "true",
      "Verifies that the server host matches the name stored in the server certificate.",
      truthChoices⟩,
   ⟨OptionName.user, "", "Username.", []⟩,
   ⟨OptionName.password, "", "Password.", []⟩,
   ⟨OptionName.samplingSize, toString Parameters.defaultSamplingSize,
      "Number of documents fetched per bucket to infer column metadata.", []⟩,
   ⟨OptionName.scanConsistency, ScanConsistency.notBounded.text, "Query scan consistency.",
      [ScanConsistency.notBounded.text, ScanConsistency.requestPlus.text]⟩,
   ⟨OptionName.loggingLevel, LoggingLevel.severe.text, "Driver log verbosity.",
      LoggingLevel.levels.map LoggingLevel.text⟩]

/-- What a link says about an option. The password and the logging level are not told. -/
def told (p : Parameters) (name : String) : Option String :=
  if name == OptionName.user then p.username
  else if name == OptionName.sslEnabled then some (toString p.sslEnabled)
  else if name == OptionName.verifyCertificate then some (toString p.verifyCertificate)
  else if name == OptionName.verifyHostnames then some (toString p.verifyHostnames)
  else if name == OptionName.defaultBucket then p.defaultBucket
  else if name == OptionName.samplingSize then some (toString p.samplingSize)
  else if name == OptionName.scanConsistency then some p.scanConsistency.text
  else none

/-- The options as a link sets them; a link that cannot be read leaves the defaults. -/
def describe (uri : String) (overlay : Overlay) : List Property :=
  match Parameters.read uri overlay with
  | .ok p => defaults.map fun d => { d with value := (told p d.name).getD d.value }
  | .error _ => defaults

end Property

end KeyspaceLink
