import CloudConf.Journal
import CloudConf.Settings
import CloudConf.Yaml.Document

/-! # The settings in an install config -/
namespace CloudConf

/-- What reads install configs. -/
structure ConfigReader where
  parse : Yaml.Stream → Except Failure Yaml.Document
  /-- The name of a stream shows in messages only. -/
  parse_rename : ∀ s name, (parse { s with name }).toOption = (parse s).toOption
  /-- What is told of the issues with the section of a document, which may show what is there. -/
  blame : Yaml.Document → List Issue → String

instance : Inhabited ConfigReader where
  default :=
    { parse := Yaml.Document.parse
      parse_rename := fun _ _ => rfl
      blame := fun _ _ => "<ValidationError>" }

namespace InstallConfig

open Yaml (Document Stream Value)

def typeName : Value → String
  | .null => "NoneType"
  | .bool _ => "bool"
  | .int _ => "int"
  | .float => "float"
  | .text _ => "str"
  | .binary _ => "bytes"
  | .date => "datetime.date"
  | .dateTime => "datetime.datetime"
  | .list _ | .pairs _ => "list"
  | .set _ => "set"
  | .mapping _ => "dict"

/-- Why a value has no entries. -/
def notIndexed (v : Value) : String :=
  match v with
  | .text _ => "string indices must be integers, not 'str'"
  | .list _ | .pairs _ => "list indices must be integers or slices, not str"
  | .binary _ => "byte indices must be integers or slices, not str"
  | _ => s!"'{typeName v}' object is not subscriptable"

def entry (d : Document) (v : Value) (key : String) : Except Failure Value :=
  match v with
  | .mapping entries =>
    match d.find? key entries with
    | some w => .ok w
    | none => .error (.missingKey (.ofString key))
  | _ => .error (.alone (.plain .type) (notIndexed v))

/-- The section of a document that the settings are in. -/
def section? (d : Document) : Except Failure Value := do
  entry d (← entry d (d.value d.root) "platform") "openstack"

def settingEntry : Option Value → Entry
  | none => .absent
  | some .null => .null
  | some (.text s) => .text s
  | some (.binary content) => .binary content
  | some _ => .other

def unusable (text : String) (cause : Failure) : Failure := .because (.stage .settings) text cause

def ofDocument (reader : ConfigReader) (d : Document) : Except Failure Settings :=
  match section? d with
  | .error f =>
    .error (unusable "install config is missing the platform.openstack section" f)
  | .ok (.mapping entries) =>
    match Settings.ofEntries fun key => settingEntry (d.find? key entries) with
    | .ok s => .ok s
    | .error issues =>
      .error (unusable "invalid platform.openstack section"
        (.alone (.invalid issues) (reader.blame d issues)))
  | .ok _ => .error (.alone (.stage .settings) "platform.openstack must be a mapping")

/-- The document in a stream. What is no YAML is an unusable install config. -/
def document (reader : ConfigReader) (s : Stream) : Except Failure Document :=
  match reader.parse s with
  | .error f =>
    if f.kind = .malformed then .error (unusable "failed to parse install config" f)
    else .error f
  | .ok d => .ok d

def load (reader : ConfigReader) (s : Stream) : Action Settings := do
  let d ← Action.ofExcept (document reader s)
  let settings ← Action.ofExcept (ofDocument reader d)
  Action.log .debug .settings (s!"Loaded install settings for cloud {settings.cloud}, " ++
    s!"external network {settings.externalNetwork.shown}")
  return settings

end InstallConfig

end CloudConf
