import CloudConf.Datum
import CloudConf.Failure

/-! # Settings of an installation -/
namespace CloudConf

/-- What a document holds at a key, as far as a setting can tell. -/
inductive Entry where
  | absent
  | null
  | text (s : WideText)
  | binary (content : ByteArray)
  | other
  deriving Inhabited

/-- The text of an entry. Bytes count as the text that they encode. -/
def Entry.asText : Entry → Except IssueKind WideText
  | absent => .error .missing
  | text s => .ok s
  | binary content =>
    match String.fromUTF8? content with
    | some s => .ok (.ofString s)
    | none => .error .notUnicode
  | null | other => .error .notText

structure Settings where
  cloud : WideText
  externalNetwork : WideText
  deriving DecidableEq, Repr, Inhabited

namespace Settings

/-- The key that the external network is read from: the first of its two that is there. -/
def networkKey (entry : String → Entry) : String :=
  match entry "externalNetwork" with
  | .absent => "external_network"
  | _ => "externalNetwork"

/-- The external network; where there is none its name is empty. -/
def network (entry : String → Entry) : Except IssueKind WideText :=
  match entry (networkKey entry) with
  | .absent | .null => .ok (.ofString "")
  | e => e.asText

/-- The settings in the entries of a document, or all that is wrong with them. -/
def ofEntries (entry : String → Entry) : Except (List Issue) Settings :=
  match (entry "cloud").asText, network entry with
  | .ok cloud, .ok net => .ok ⟨cloud, net⟩
  | .ok _, .error k => .error [⟨some (networkKey entry), k⟩]
  | .error k, .ok _ => .error [⟨some "cloud", k⟩]
  | .error k, .error k' => .error [⟨some "cloud", k⟩, ⟨some (networkKey entry), k'⟩]

def entryOf : Option Datum → Entry
  | none => .absent
  | some .null => .null
  | some (.text s) => .text (.ofString s)
  | some _ => .other

def ofDatum : Datum → Except (List Issue) Settings
  | .mapping entries => ofEntries fun key => entryOf (Datum.find? key entries)
  | _ => .error [⟨none, .notMapping⟩]

end Settings

end CloudConf
