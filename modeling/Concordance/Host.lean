import Concordance.Json.Codec
/-!
What the host reports of its classes. It decides on logical names: which enums a class has, their
constants in the order of declaration, and all integer constants of the class. Of a class it does
not know it reports nothing.
-/
namespace Concordance

open Json

structure HostEnum where
  name : String
  constants : List String := []
deriving DecidableEq

namespace HostEnum

def layout :=
  (Layout.required "Name" .string).and <|
  Layout.optional "Constants" (.list .string) []

def codec : Codec HostEnum :=
  layout.codec (fun (name, constants) => { name, constants }) (fun e => (e.name, e.constants))

end HostEnum

structure HostClass where
  enums : List HostEnum := []
  /-- The members of the enums are among them. -/
  integerConstants : List String := []
  methods : List String := []
deriving DecidableEq

namespace HostClass

def layout :=
  (Layout.optional "Enums" (.list HostEnum.codec) []).and <|
  (Layout.optional "IntegerConstants" (.list .string) []).and <|
  Layout.optional "Methods" (.list .string) []

def codec : Codec HostClass :=
  layout.codec
    (fun (enums, integerConstants, methods) => { enums, integerConstants, methods })
    (fun c => (c.enums, c.integerConstants, c.methods))

end HostClass

structure Host where
  version : String := ""
  classes : NameMap HostClass := .empty

namespace Host

def layout :=
  (Layout.required "Version" .string).and <|
  Layout.optional "Classes" (.nameMap HostClass.codec) .empty

def codec : Codec Host :=
  layout.codec (fun (version, classes) => { version, classes }) (fun h => (h.version, h.classes))

def classOf (h : Host) (type : String) : HostClass := (h.classes.get? type).getD {}

def enumNames (h : Host) (type : String) : List String := (h.classOf type).enums.map (·.name)

def enumConstants (h : Host) (type enum : String) : List String :=
  (((h.classOf type).enums.find? (·.name = enum)).map (·.constants)).getD []

def integerConstants (h : Host) (type : String) : List String := (h.classOf type).integerConstants

def knowsType (h : Host) (type : String) : Bool := h.classes.contains type

def knowsMethod (h : Host) (type method : String) : Bool := method ∈ (h.classOf type).methods

end Host
end Concordance
