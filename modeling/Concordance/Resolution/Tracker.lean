import Concordance.Json.Codec
/-!
What an extraction could not bring into agreement, as records that a report can filter.
-/
namespace Concordance

open Json

inductive Unresolved.Kind where
  /-- The host and the module count differently many constants. -/
  | constantsMismatch
  /-- The host reports an enum that no nested type has. -/
  | enumNotFound
  /-- An enum without a declaring type, to be mapped by hand. -/
  | globalEnum
deriving DecidableEq, Repr

namespace Unresolved.Kind

def name : Unresolved.Kind → String
  | constantsMismatch => "constants-type-mismatch"
  | enumNotFound => "enum-not-found"
  | globalEnum => "global-enum-needs-manual-mapping"

def all : List Unresolved.Kind := [constantsMismatch, enumNotFound, globalEnum]

end Unresolved.Kind

inductive Unresolved where
  | constantsMismatch (logicalType binaryType : String)
  | enumNotFound (logicalType binaryType enumName : String)
  | globalEnum (logicalType binaryType : String)
deriving DecidableEq, Repr

namespace Unresolved

def kind : Unresolved → Unresolved.Kind
  | constantsMismatch .. => .constantsMismatch
  | enumNotFound .. => .enumNotFound
  | globalEnum .. => .globalEnum

def logicalType : Unresolved → String
  | constantsMismatch l _ | enumNotFound l _ _ | globalEnum l _ => l

def binaryType : Unresolved → String
  | constantsMismatch _ b | enumNotFound _ b _ | globalEnum _ b => b

def typesLayout :=
  (Layout.required "logical_type" .string).and <|
  Layout.required "binary_type" .string

def enumLayout :=
  (Layout.required "logical_type" .string).and <|
  (Layout.required "binary_type" .string).and <|
  Layout.required "enum_name" .string

def tagged : Tagged Unresolved where
  tag := "kind"
  cases := [
    Tagged.case Unresolved.Kind.constantsMismatch.name typesLayout fun (l, b) =>
      .constantsMismatch l b,
    Tagged.case Unresolved.Kind.enumNotFound.name enumLayout fun (l, b, e) => .enumNotFound l b e,
    Tagged.case Unresolved.Kind.globalEnum.name typesLayout fun (l, b) => .globalEnum l b]

def codec : Codec Unresolved where
  decode := tagged.decode
  encode u := .object <| ("kind", .string u.kind.name) ::
    match u with
    | constantsMismatch l b | globalEnum l b => typesLayout.members (l, b)
    | enumNotFound l b e => enumLayout.members (l, b, e)

end Unresolved

/-- The entries of a run in the order in which they were recorded, repetitions included. -/
structure Tracker where
  entries : List Unresolved := []
deriving DecidableEq, Repr

namespace Tracker

def ofKind (t : Tracker) (k : Unresolved.Kind) : List Unresolved := t.entries.filter (·.kind = k)

def count (t : Tracker) (k : Unresolved.Kind) : Nat := (t.ofKind k).length

def add (t : Tracker) (us : List Unresolved) : Tracker := ⟨t.entries ++ us⟩

def layout := Layout.required "entries" (.list Unresolved.codec)

def codec : Codec Tracker := layout.codec (fun entries => { entries }) (·.entries)

end Tracker
end Concordance
