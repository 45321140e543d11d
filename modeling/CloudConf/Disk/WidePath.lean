import CloudConf.Disk.Basic

/-! # Paths that may hold surrogates

A path is handed to the system as bytes. The surrogates that stand for one byte each, which would be no
text, are handed over as that byte; with any other the path is refused. -/
namespace CloudConf

namespace CodePoint

def isSurrogate : CodePoint → Bool
  | char _ => false
  | surrogate _ => true

def isPassable : CodePoint → Bool
  | char _ => true
  | surrogate s => 0xDC80 ≤ s.value && s.value ≤ 0xDCFF

/-- The bytes that a point is handed over as, if it can be. -/
def bytes : CodePoint → List UInt8
  | char c => String.utf8EncodeChar c
  | surrogate s => [UInt8.ofNat (s.value - 0xDC00)]

/-- The place of the first point that cannot be handed over, with the surrogates that follow each
other from there on. -/
def unpassable? (place : Nat) : List CodePoint → Option (Nat × List CodePoint)
  | [] => none
  | p :: rest =>
    if p.isPassable then unpassable? (place + 1) rest
    else some (place, p :: rest.takeWhile isSurrogate)

def refusal (place : Nat) (run : List CodePoint) : Failure :=
  let what := match run with
    | [p] => s!"character '{String.ofList p.write}' in position {place}"
    | _ => s!"characters in position {place}-{place + run.length - 1}"
  .alone (.plain .unencodable) s!"'utf-8' codec can't encode {what}: surrogates not allowed"

/-- The name that points stand for, if they are a text. -/
def name? (part : List CodePoint) : Option String :=
  String.fromUTF8? (part.flatMap bytes).toByteArray

end CodePoint

namespace WideText

/-- The components of a path that are neither empty nor `.`. -/
def normalParts (w : WideText) : List (List CodePoint) :=
  (Text.splitAt (.char '/') w.points).filter fun part => part ≠ [] ∧ part ≠ [.char '.']

def normalPath (w : WideText) : WideText :=
  let body := [CodePoint.char '/'].intercalate w.normalParts
  match w.points.takeWhile (· = .char '/') with
  | [] => if w.normalParts = [] then "." else ⟨body⟩
  | [_, _] => ⟨.char '/' :: .char '/' :: body⟩
  | _ => ⟨.char '/' :: body⟩

end WideText

namespace Disk

/-- Follows the parts of a path. All names are texts, so nothing has another one. -/
def followParts (d : Disk) (place : Place) : List (List CodePoint) → Except DiskFault Place
  | [] => .ok place
  | part :: rest =>
    match CodePoint.name? part with
    | some name => do d.followParts (← d.follow place [name]) rest
    | none =>
      match d.node? place with
      | none => .error .notFound
      | some (.file _ _) => .error .notDirectory
      | some .directory =>
        .error (if (part.flatMap CodePoint.bytes).length > maxNameBytes then .nameTooLong
          else .notFound)

def locateWide (d : Disk) (w : WideText) : Except DiskFault Place :=
  if w.points.contains (.char '\x00') then .error .nulCharacter
  else if w.isEmpty then .error .notFound
  else if (w.points.flatMap CodePoint.bytes).length > maxPathBytes then .error .nameTooLong
  else d.followParts (if w.points.head? = some (.char '/') then [] else d.workPlace)
    (Text.splitAt (.char '/') w.points)

/-- The content of the file that a path in normal form leads to. -/
def readNormal (d : Disk) (path : WideText) : Except Failure ByteArray :=
  let p := path.normalPath
  match CodePoint.unpassable? 0 p.points with
  | some (place, run) => .error (CodePoint.refusal place run)
  | none => (do d.contentOf (← d.locateWide p)).mapError (DiskFault.failure p)

end Disk

end CloudConf
