import Concordance.Override.Standard
import Concordance.Resolution.Resolver
/-!
The registry that the program brings along, for use without a module or a file.
-/
namespace Concordance.Bundled

open Override

def nodeClass : String := "Godot.Node"
def objectClass : String := "Godot.GodotObject"
def vectorType : String := "Godot.Vector2"
def processModeEnum : String := "Godot.Node+ProcessModeEnum"

def scripts : TypeEntry where
  logicalName := "GD"
  binaryName := "GD"
  namespaceName := "Godot"
  isStatic := true
  methods := .groupBy (·.logicalName) [
    Method.ofLogical "randomize" scriptClass,
    Method.ofLogical "str_to_var" scriptClass
      |>.param "str" "System.String"
      |>.returning "Godot.Variant"]

def maths : TypeEntry where
  logicalName := "Mathf"
  binaryName := "Mathf"
  namespaceName := "Godot"
  isStatic := true
  methods := .groupBy (·.logicalName) [
    Method.ofLogical "abs" mathClass
      |>.param "s" "System.Double"
      |>.returning "System.Double",
    Method.ofLogical "floor" mathClass
      |>.param "s" "System.Double"
      |>.returning "System.Double",
    Method.ofLogical "sqrt" mathClass
      |>.param "s" "System.Double"
      |>.returning "System.Double"]

def integer (logicalName binaryName declaringType value : String) : String × Constant :=
  (logicalName, ⟨logicalName, binaryName, "System.Int64", declaringType, value⟩)

def processMode : EnumType where
  logicalName := "ProcessMode"
  containingType := some "Node"
  binaryFullName := processModeEnum
  binaryName := "ProcessModeEnum"
  members := [
    ⟨"PROCESS_MODE_INHERIT", "Inherit", 0⟩,
    ⟨"PROCESS_MODE_PAUSABLE", "Pausable", 1⟩,
    ⟨"PROCESS_MODE_WHEN_PAUSED", "WhenPaused", 2⟩,
    ⟨"PROCESS_MODE_ALWAYS", "Always", 3⟩,
    ⟨"PROCESS_MODE_DISABLED", "Disabled", 4⟩]

def node : TypeEntry where
  logicalName := "Node"
  binaryName := "Node"
  namespaceName := "Godot"
  baseType := some objectClass
  methods := .groupBy (·.logicalName) [
    Method.ofLogical "add_child" nodeClass
      |>.onInstance
      |>.param "node" nodeClass
      |>.optionalParam "forceReadableName" "System.Boolean" "false",
    Method.ofLogical "get_node" nodeClass
      |>.onInstance
      |>.param "path" "Godot.NodePath"
      |>.returning nodeClass,
    Method.ofLogical "queue_free" nodeClass
      |>.onInstance,
    Method.named "_ready" "_Ready" nodeClass
      |>.onInstance
      |>.overridable,
    Method.named "_process" "_Process" nodeClass
      |>.onInstance
      |>.overridable
      |>.param "delta" "System.Double"]
  properties := .ofList [
    ("name", .onInstance "name" "Name" "Godot.StringName" nodeClass),
    ("owner", .onInstance "owner" "Owner" nodeClass nodeClass),
    ("process_mode", .onInstance "process_mode" "ProcessMode" processModeEnum nodeClass)]
  signals := .ofList [
    ("ready", .taking "ready" "Ready" [] nodeClass),
    ("child_entered_tree", .taking "child_entered_tree" "ChildEnteredTree" [nodeClass] nodeClass),
    ("tree_exiting", .taking "tree_exiting" "TreeExiting" [] nodeClass)]
  constants := .ofList [
    integer "NOTIFICATION_ENTER_TREE" "NotificationEnterTree" nodeClass "10",
    integer "NOTIFICATION_EXIT_TREE" "NotificationExitTree" nodeClass "11",
    integer "NOTIFICATION_READY" "NotificationReady" nodeClass "13"]
  enums := .ofList [("ProcessMode", processMode)]

def nodeProcessMode : TypeEntry where
  logicalName := "Node.ProcessMode"
  binaryName := "ProcessModeEnum"
  namespaceName := "Godot"
  declaringType := some nodeClass
  isEnum := true
  constants := .ofList <| processMode.members.map fun m =>
    (m.logicalName,
      ⟨m.logicalName, m.binaryName, processModeEnum, processModeEnum, toString m.value.toInt⟩)

def object : TypeEntry where
  logicalName := "Object"
  binaryName := "GodotObject"
  namespaceName := "Godot"
  methods := .groupBy (·.logicalName) [
    Method.ofLogical "get_instance_id" objectClass
      |>.onInstance
      |>.returning "System.UInt64",
    Method.ofLogical "is_class" objectClass
      |>.onInstance
      |>.param "class" "System.String"
      |>.returning "System.Boolean",
    Method.ofLogical "emit_signal" objectClass
      |>.onInstance
      |>.param "signal" "Godot.StringName"
      |>.paramsArray "args" "Godot.Variant"
      |>.returning "Godot.Error",
    Method.ofLogical "connect" objectClass
      |>.onInstance
      |>.param "signal" "Godot.StringName"
      |>.param "callable" "Godot.Callable"
      |>.optionalParam "flags" "System.UInt32" "0"
      |>.returning "Godot.Error"]
  signals := .ofList [
    ("script_changed", .taking "script_changed" "ScriptChanged" [] objectClass)]
  constants := .ofList [
    integer "NOTIFICATION_POSTINITIALIZE" "NotificationPostinitialize" objectClass "0",
    integer "NOTIFICATION_PREDELETE" "NotificationPredelete" objectClass "1"]
  enums := .ofList [("ConnectFlags", {
    logicalName := "ConnectFlags"
    containingType := some "Object"
    binaryFullName := "Godot.GodotObject+ConnectFlags"
    binaryName := "ConnectFlags"
    isFlags := true
    members := [
      ⟨"CONNECT_DEFERRED", "Deferred", 1⟩,
      ⟨"CONNECT_PERSIST", "Persist", 2⟩,
      ⟨"CONNECT_ONE_SHOT", "OneShot", 4⟩,
      ⟨"CONNECT_REFERENCE_COUNTED", "ReferenceCounted", 8⟩] })]

def vector : TypeEntry where
  logicalName := "Vector2"
  binaryName := "Vector2"
  namespaceName := "Godot"
  isBuiltinValueType := true
  methods := .groupBy (·.logicalName) [
    Method.ofLogical "length" vectorType
      |>.onInstance
      |>.returning "System.Single",
    Method.ofLogical "normalized" vectorType
      |>.onInstance
      |>.returning vectorType]
  properties := .ofList [
    ("x", .onInstance "x" "X" "System.Single" vectorType),
    ("y", .onInstance "y" "Y" "System.Single" vectorType)]

def entries : List TypeEntry := [scripts, maths, node, nodeProcessMode, object, vector]

/-- The registry as it was extracted, before any merge. -/
def registry : Registry :=
  entries.foldl Registry.storeType {
    metadata := {
      hostVersion := "4.3.stable"
      extractedAt := ⟨Instant.dayOfDate 2026 9 28, 14 * 3600 + 2 * 60 + 11, 0⟩
      origin := .baseline }
    global := ({} : GlobalScope).publish scripts |>.publish maths }

end Concordance.Bundled
