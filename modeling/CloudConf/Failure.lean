import CloudConf.Text.Wide

/-! # Failures and their causes -/
namespace CloudConf

/-- The stages of the generator, each with an error of its own. -/
inductive Stage where
  | generation | session | client | caBundle | lookup | settings
  deriving DecidableEq, Repr, Inhabited

/-- What the cloud's client library reports. -/
inductive CloudFault where
  | general | configuration | notFound | duplicate | http
  deriving DecidableEq, Repr, Inhabited

/-- What the identity service's client reports. -/
inductive IdentityFault where
  | general | connection | timeout | certificate | discovery
  deriving DecidableEq, Repr, Inhabited

/-- What the operating system reports. -/
inductive SystemFault where
  | general | fileNotFound | fileExists | permission | isDirectory | notDirectory
  | timeout | connection | connectionReset | brokenPipe | interrupted
  deriving DecidableEq, Repr, Inhabited

inductive PlainFault where
  | general | value | key | lookup | index | runtime | type | memory | notImplemented | attribute
  | encoding | undecodable | unencodable | overflow | recursion | endOfInput
  deriving DecidableEq, Repr, Inhabited

/-- Requests to stop; no stage handles them. -/
inductive Signal where
  | interrupt | exit | close
  deriving DecidableEq, Repr, Inhabited

inductive IssueKind where
  | missing | notText | notUnicode | notMapping
  deriving DecidableEq, Repr, Inhabited

/-- What is wrong with a field of the settings, or with the settings as a whole. -/
structure Issue where
  field : Option String
  kind : IssueKind
  deriving DecidableEq, Repr, Inhabited

inductive FailureKind where
  | stage (s : Stage)
  | cloud (f : CloudFault)
  | identity (f : IdentityFault)
  | system (f : SystemFault)
  | plain (f : PlainFault)
  | signal (s : Signal)
  /-- The document is no YAML. -/
  | malformed
  /-- The fields of the document are not those of the settings. -/
  | invalid (issues : List Issue)
  deriving DecidableEq, Repr, Inhabited

/-- The text of a failure that is given some words. A missing key is shown in quotes. -/
def FailureKind.wording (k : FailureKind) (words : String) : String :=
  match k with
  | .plain .key => Text.shown words
  | _ => words

inductive Failure where
  | alone (kind : FailureKind) (text : String)
  | because (kind : FailureKind) (text : String) (cause : Failure)
  deriving DecidableEq, Repr, Inhabited

namespace Failure

def kind : Failure → FailureKind
  | alone k _ | because k _ _ => k

def text : Failure → String
  | alone _ t | because _ t _ => t

def cause? : Failure → Option Failure
  | alone _ _ => none
  | because _ _ c => some c

def missingKey (key : WideText) : Failure := alone (.plain .key) key.shown

/-- The failure of a stage tells its cause; all others keep theirs to themselves. -/
def message : Failure → String
  | because (.stage _) t c => t ++ ": " ++ c.message
  | alone _ t | because _ t _ => t

def isStage (f : Failure) : Bool := match f.kind with
  | .stage _ => true
  | _ => false

/-- Failures that loading a cloud or connecting to it reports as its own. -/
def isRemote (f : Failure) : Bool := match f.kind with
  | .cloud _ | .identity _ => true
  | _ => false

/-- Failures of the operating system; a missing resource and a failed request count among them. -/
def isSystem (f : Failure) : Bool := match f.kind with
  | .system _ | .cloud .http | .cloud .notFound => true
  | _ => false

def isSignal (f : Failure) : Bool := match f.kind with
  | .signal _ => true
  | _ => false

end Failure

end CloudConf
