import Concordance.Registry.Basic
/-!
The counts of a registry's parts.
-/
namespace Concordance

structure RegistryCounts where
  logicalTypes : Nat
  binaryVariants : Nat
  methods : Nat
  properties : Nat
  signals : Nat
  constants : Nat
  enums : Nat
  globalMethods : Nat
  globalConstants : Nat
  globalEnums : Nat
  globalTypes : Nat
deriving DecidableEq, Repr

namespace RegistryCounts

def of (r : Registry) : RegistryCounts :=
  let entries := r.typeEntries
  { logicalTypes := r.typeCount
    binaryVariants := entries.length
    methods := (entries.flatMap (·.methods.values.flatten)).length
    properties := (entries.flatMap (·.properties.values)).length
    signals := (entries.flatMap (·.signals.values)).length
    constants := (entries.flatMap (·.constants.values)).length
    enums := (entries.flatMap (·.enums.values)).length
    globalMethods := r.global.methodCount
    globalConstants := r.global.constants.size
    globalEnums := r.global.enums.values.flatten.length
    globalTypes := r.global.types.size }

def encode (s : RegistryCounts) : Json :=
  .object [
    ("logical_types", .int s.logicalTypes),
    ("binary_variants", .int s.binaryVariants),
    ("methods", .int s.methods),
    ("properties", .int s.properties),
    ("signals", .int s.signals),
    ("constants", .int s.constants),
    ("enums", .int s.enums),
    ("global_methods", .int s.globalMethods),
    ("global_constants", .int s.globalConstants),
    ("global_enums", .int s.globalEnums),
    ("global_types", .int s.globalTypes)]

end RegistryCounts
end Concordance
