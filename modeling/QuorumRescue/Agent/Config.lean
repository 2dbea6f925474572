/-
  The configuration of an agent.

  The first line of the file names the version of its format; the rest is a YAML record.  Versions other
  than the known one are refused unread.

  1. **Fields.** Every field but the tag may be left out, and has a default then.  Fields that the
     layout does not name are passed over.

  2. **Rules.** Some fields have one: tags have to look like tags, and no advertised address may be
     empty.  All rules are checked, and a configuration is refused with one line for every field that
     breaks its rule, in the order of the fields.  Only a tag that follows the rule is read, and then
     its number may turn out to be too large.

  3. **Use.** Of all this, recovery uses the data directory and the advertised addresses.  That there
     are any addresses is asked for when they are used, and not when the configuration is read.
-/
import QuorumRescue.Agent.Tag
import QuorumRescue.Failure
import QuorumRescue.Text.Blank
import QuorumRescue.Tree
import QuorumRescue.Yaml.Decode

namespace QuorumRescue

open DecodeFault (required once)

/-- What an agent on a controller machine needs in order to serve. -/
structure ServingInfo where
  apiPort : UInt16
  controllerApiPort : UInt16
  cert : String
  privateKey : String
  caPrivateKey : String
  sharedSecret : String
  systemIdentity : String
deriving DecidableEq, Repr

/-- The configuration of an agent, and the file that it is from. -/
structure AgentConfig where
  tag : AgentTag
  dataDir : Path
  logDir : Path
  caCert : String
  controller : Option String
  model : Option String
  advertised : List String
  serving : Option ServingInfo
  path : Option Path := none
deriving DecidableEq, Repr

namespace AgentConfig

/-! ## The record -/

/-- The record as it stands in the file. -/
structure Layout where
  tag : String
  dataDir : String := ""
  logDir : String := ""
  caCert : String := ""
  controller : Option String := none
  model : Option String := none
  advertised : List String := []
  controllerCert : String := ""
  controllerKey : String := ""
  caPrivateKey : String := ""
  apiPort : UInt16 := 0
  controllerApiPort : UInt16 := 0
  sharedSecret : String := ""
  systemIdentity : String := ""
deriving DecidableEq, Repr

/-- The fields read so far. -/
structure Fields where
  tag : Option String := none
  dataDir : Option String := none
  logDir : Option String := none
  caCert : Option String := none
  controller : Option (Option String) := none
  model : Option (Option String) := none
  advertised : Option (List String) := none
  controllerCert : Option String := none
  controllerKey : Option String := none
  caPrivateKey : Option String := none
  apiPort : Option UInt16 := none
  controllerApiPort : Option UInt16 := none
  sharedSecret : Option String := none
  systemIdentity : Option String := none

/-- The names of the fields. -/
def fieldNames : List String :=
  ["tag", "datadir", "logdir", "cacert", "controller", "model", "apiaddresses", "controllercert",
   "controllerkey", "caprivatekey", "apiport", "controllerapiport", "sharedsecret",
   "systemidentity"]

/-- Reads one field. -/
def Fields.take (fields : Fields) (name : String) (value : Yaml.Node) : Except DecodeFault Fields := do
  if name = "tag" then
    once name fields.tag
    return { fields with tag := some (← value.toText) }
  else if name = "datadir" then
    once name fields.dataDir
    return { fields with dataDir := some (← value.toText) }
  else if name = "logdir" then
    once name fields.logDir
    return { fields with logDir := some (← value.toText) }
  else if name = "cacert" then
    once name fields.caCert
    return { fields with caCert := some (← value.toText) }
  else if name = "controller" then
    once name fields.controller
    return { fields with controller := some (← value.toOptionalText) }
  else if name = "model" then
    once name fields.model
    return { fields with model := some (← value.toOptionalText) }
  else if name = "apiaddresses" then
    once name fields.advertised
    return { fields with advertised := some (← value.toList Yaml.Node.toText) }
  else if name = "controllercert" then
    once name fields.controllerCert
    return { fields with controllerCert := some (← value.toText) }
  else if name = "controllerkey" then
    once name fields.controllerKey
    return { fields with controllerKey := some (← value.toText) }
  else if name = "caprivatekey" then
    once name fields.caPrivateKey
    return { fields with caPrivateKey := some (← value.toText) }
  else if name = "apiport" then
    once name fields.apiPort
    return { fields with apiPort := some (← value.toWord16) }
  else if name = "controllerapiport" then
    once name fields.controllerApiPort
    return { fields with controllerApiPort := some (← value.toWord16) }
  else if name = "sharedsecret" then
    once name fields.sharedSecret
    return { fields with sharedSecret := some (← value.toText) }
  else
    once name fields.systemIdentity
    return { fields with systemIdentity := some (← value.toText) }

/-- Fills in what was left out. -/
def Fields.complete (fields : Fields) : Except DecodeFault Layout := do
  return {
    tag := ← required "tag" fields.tag
    dataDir := fields.dataDir.getD ""
    logDir := fields.logDir.getD ""
    caCert := fields.caCert.getD ""
    controller := fields.controller.join
    model := fields.model.join
    advertised := fields.advertised.getD []
    controllerCert := fields.controllerCert.getD ""
    controllerKey := fields.controllerKey.getD ""
    caPrivateKey := fields.caPrivateKey.getD ""
    apiPort := fields.apiPort.getD 0
    controllerApiPort := fields.controllerApiPort.getD 0
    sharedSecret := fields.sharedSecret.getD ""
    systemIdentity := fields.systemIdentity.getD "" }

def Layout.ofNode (node : Yaml.Node) : Except DecodeFault Layout := do
  (← node.foldFields fieldNames Fields.take {}).complete

/-! ## Rules -/

/-- Whether a text is a lead, a dash, and then good characters only, at least one. -/
def hasForm (lead : List Char) (good : Char → Bool) (text : List Char) : Bool :=
  match Text.dropLead (lead ++ ['-']) text with
  | some rest => !rest.isEmpty && rest.all good
  | none => false

/-- The characters of unique ids: small hexadecimal digits and dashes. -/
def isIdChar (c : Char) : Bool :=
  (48 ≤ c.toNat && c.toNat ≤ 57) || (97 ≤ c.toNat && c.toNat ≤ 102) || c == '-'

def fitsTag (text : String) : Bool :=
  hasForm AgentKind.machine.word Numeral.isDigit text.toList
    || hasForm AgentKind.controller.word Numeral.isDigit text.toList

def fitsController (text : String) : Bool := hasForm AgentKind.controller.word isIdChar text.toList
def fitsModel (text : String) : Bool := hasForm ['m', 'o', 'd', 'e', 'l'] isIdChar text.toList

/-- The places of empty addresses, counted from `index` on. -/
def emptyAddresses : (index : Nat) → List String → List FieldFault
  | _, [] => []
  | index, address :: rest =>
      (if address.isEmpty then [.emptyApiAddress index] else []) ++ emptyAddresses (index + 1) rest

/-- The rules that a record breaks, in the order of the fields' names. -/
def Layout.faults (layout : Layout) : List FieldFault :=
  emptyAddresses 0 layout.advertised
    ++ (if layout.controller.all fitsController then [] else [.badController])
    ++ (if layout.model.all fitsModel then [] else [.badModel])
    ++ (if fitsTag layout.tag then [] else [.badTag])

/-! ## The configuration of a record -/

/-- The data directory, unless one is given. -/
def defaultDataDir : String := "/var/lib/controller"

/-- The directory for logs, unless one is given. -/
def defaultLogDir : String := "/var/log/controller"

/-- A path that may have been left out. -/
def pathOr (text fallback : String) : Path := if text.isEmpty then ⟨fallback⟩ else ⟨text⟩

/-- The serving details, which only a controller has, and with them a key. -/
def Layout.serving (layout : Layout) : Option ServingInfo :=
  if layout.controllerKey.isEmpty then none
  else some {
    apiPort := layout.apiPort
    controllerApiPort := layout.controllerApiPort
    cert := layout.controllerCert
    privateKey := layout.controllerKey
    caPrivateKey := layout.caPrivateKey
    sharedSecret := layout.sharedSecret
    systemIdentity := layout.systemIdentity }

/-- Accepts a record that breaks no rule. -/
def ofLayout (layout : Layout) : Except Failure AgentConfig :=
  match layout.faults with
  | [] =>
      match AgentTag.ofText? layout.tag with
      | none => .error (.invalidConfig (.notATag layout.tag))
      | some tag => .ok {
          tag := tag
          dataDir := pathOr layout.dataDir defaultDataDir
          logDir := pathOr layout.logDir defaultLogDir
          caCert := layout.caCert
          controller := layout.controller
          model := layout.model
          advertised := layout.advertised
          serving := layout.serving }
  | faults => .error (.invalidConfig (.fields faults))

/-! ## Files -/

/-- What stands before the version, at the start of the first line. -/
def headerLead : List Char := ['#', ' ', 'f', 'o', 'r', 'm', 'a', 't', ' ']

/-- The version that is known. -/
def knownVersion : List Char := ['2', '.', '0']

/-- The name of the configuration in messages. -/
def resource : String := "agent config"

/-- The first line, and what follows it. -/
def splitHeader (text : List Char) : List Char × List Char := (Text.splitFirst '\n' text).getD (text, [])

/-- The version that a first line names. -/
def versionOf (header : List Char) : Option (List Char) :=
  (Text.dropLead headerLead (Text.trimEnd header)).map Text.trim

/-- Reads the text of a configuration. -/
def parse (text : String) : Except Failure AgentConfig :=
  match splitHeader text.toList with
  | (header, body) =>
      match versionOf header with
      | none => .error (.corruption resource .missingHeader)
      | some version =>
          if version = knownVersion then
            match Yaml.decodeText Layout.ofNode body with
            | .error fault => .error (.corruption resource (.undecodable fault))
            | .ok layout => ofLayout layout
          else .error (.unsupportedFormat (String.ofList version))

/-- Reads the configuration in a file. -/
def read (path : Path) (tree : Tree) : Except Failure AgentConfig :=
  match tree.read path with
  | .error fault => .error (.io path.text fault)
  | .ok bytes =>
      match String.fromUTF8? bytes with
      | none => .error (.io path.text .notText)
      | some text => (parse text).map fun config => { config with path := some path }

/-- The advertised addresses, of which recovery needs one. -/
def apiAddresses (config : AgentConfig) : Except Failure (List String) :=
  if config.advertised.isEmpty then .error (.notFound "API addresses in agent config")
  else .ok config.advertised

example : fitsTag "machine-0" = true := by decide
example : fitsController "controller-" = false := by decide

end AgentConfig

end QuorumRescue
