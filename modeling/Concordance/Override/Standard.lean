import Concordance.Member.Draft
import Concordance.Override.Merge
/-!
The global symbols that no extraction can recover.
-/
namespace Concordance.Override

def scriptClass : String := "Godot.GD"
def mathClass : String := "Godot.Mathf"

def standardEnums : List EnumType := List.map EnumDraft.enum [
  EnumDraft.named "Error" "Godot.Error"
    |>.namedValue "OK" "Ok" 0
    |>.namedValue "FAILED" "Failed" 1
    |>.sharing "ERR_"
    |>.value "ERR_UNAVAILABLE" 2
    |>.value "ERR_UNCONFIGURED" 3
    |>.value "ERR_UNAUTHORIZED" 4
    |>.value "ERR_PARAMETER_RANGE_ERROR" 5
    |>.value "ERR_OUT_OF_MEMORY" 6
    |>.value "ERR_FILE_NOT_FOUND" 7,
  EnumDraft.named "Side" "Godot.Side"
    |>.sharing "SIDE_"
    |>.value "SIDE_LEFT" 0
    |>.value "SIDE_TOP" 1
    |>.value "SIDE_RIGHT" 2
    |>.value "SIDE_BOTTOM" 3,
  EnumDraft.named "Corner" "Godot.Corner"
    |>.sharing "CORNER_"
    |>.value "CORNER_TOP_LEFT" 0
    |>.value "CORNER_TOP_RIGHT" 1
    |>.value "CORNER_BOTTOM_RIGHT" 2
    |>.value "CORNER_BOTTOM_LEFT" 3,
  EnumDraft.named "Orientation" "Godot.Orientation"
    |>.value "VERTICAL" 1
    |>.value "HORIZONTAL" 0,
  EnumDraft.named "ClockDirection" "Godot.ClockDirection"
    |>.value "CLOCKWISE" 0
    |>.value "COUNTERCLOCKWISE" 1,
  EnumDraft.named "HorizontalAlignment" "Godot.HorizontalAlignment"
    |>.sharing "HORIZONTAL_ALIGNMENT_"
    |>.value "HORIZONTAL_ALIGNMENT_LEFT" 0
    |>.value "HORIZONTAL_ALIGNMENT_CENTER" 1
    |>.value "HORIZONTAL_ALIGNMENT_RIGHT" 2
    |>.value "HORIZONTAL_ALIGNMENT_FILL" 3,
  EnumDraft.named "VerticalAlignment" "Godot.VerticalAlignment"
    |>.sharing "VERTICAL_ALIGNMENT_"
    |>.value "VERTICAL_ALIGNMENT_TOP" 0
    |>.value "VERTICAL_ALIGNMENT_CENTER" 1
    |>.value "VERTICAL_ALIGNMENT_BOTTOM" 2
    |>.value "VERTICAL_ALIGNMENT_FILL" 3,
  EnumDraft.named "MouseButtonMask" "Godot.MouseButtonMask"
    |>.flags
    |>.sharing "MOUSE_BUTTON_MASK_"
    |>.value "MOUSE_BUTTON_MASK_LEFT" 1
    |>.value "MOUSE_BUTTON_MASK_RIGHT" 2
    |>.value "MOUSE_BUTTON_MASK_MIDDLE" 4]

def standardMethods : List Method := [
  Method.ofLogical "abs" mathClass
    |>.param "s" "System.Int32"
    |>.returning "System.Int32",
  Method.ofLogical "sign" mathClass
    |>.param "s" "System.Int32"
    |>.returning "System.Int32",
  Method.ofLogical "clamp" mathClass
    |>.param "value" "System.Int32"
    |>.param "min" "System.Int32"
    |>.param "max" "System.Int32"
    |>.returning "System.Int32",
  Method.ofLogical "lerp" mathClass
    |>.param "from" "System.Double"
    |>.param "to" "System.Double"
    |>.param "weight" "System.Double"
    |>.returning "System.Double",
  Method.ofLogical "is_equal_approx" mathClass
    |>.param "a" "System.Double"
    |>.param "b" "System.Double"
    |>.returning "System.Boolean",
  Method.ofLogical "print" scriptClass
    |>.paramsArray "what" "System.Object",
  Method.ofLogical "push_error" scriptClass
    |>.param "message" "System.String",
  Method.ofLogical "push_warning" scriptClass
    |>.param "message" "System.String",
  Method.ofLogical "randi" scriptClass
    |>.returning "System.UInt32",
  Method.ofLogical "randf" scriptClass
    |>.returning "System.Single",
  Method.named "randf_range" "RandRange" scriptClass
    |>.param "from" "System.Double"
    |>.param "to" "System.Double"
    |>.returning "System.Double",
  Method.named "randi_range" "RandRange" scriptClass
    |>.param "from" "System.Int32"
    |>.param "to" "System.Int32"
    |>.returning "System.Int32",
  Method.ofBinary "VarToStr" scriptClass
    |>.param "var" "Godot.Variant"
    |>.returning "System.String",
  Method.ofBinary "InstanceFromId" scriptClass
    |>.param "instanceId" "System.UInt64"
    |>.returning "Godot.GodotObject"]

def languageFunctions : List Method := [
  Method.ofLogical "range" scriptClass
    |>.param "end" "System.Int32"
    |>.returning "Godot.Collections.Array",
  Method.ofLogical "range" scriptClass
    |>.param "start" "System.Int32"
    |>.param "end" "System.Int32"
    |>.returning "Godot.Collections.Array",
  Method.ofLogical "range" scriptClass
    |>.param "start" "System.Int32"
    |>.param "end" "System.Int32"
    |>.param "step" "System.Int32"
    |>.returning "Godot.Collections.Array",
  Method.ofLogical "load" scriptClass
    |>.param "path" "System.String"
    |>.returning "Godot.Resource",
  Method.named "preload" "Load" scriptClass
    |>.param "path" "System.String"
    |>.returning "Godot.Resource",
  Method.named "type_exists" "ClassExists" "Godot.ClassDB"
    |>.param "class" "Godot.StringName"
    |>.returning "System.Boolean",
  Method.named "assert" "Assert" "System.Diagnostics.Debug"
    |>.param "condition" "System.Boolean"
    |>.optionalParam "message" "System.String" "\"\""]

def standardConstants : List Constant := [
  ⟨"PI", "Pi", "System.Double", mathClass, "3.141592653589793"⟩,
  ⟨"TAU", "Tau", "System.Double", mathClass, "6.283185307179586"⟩,
  ⟨"INF", "Inf", "System.Double", mathClass, "Infinity"⟩,
  ⟨"NAN", "NaN", "System.Double", mathClass, "NaN"⟩]

def standardTypes : List TypeProxy := [
  ⟨"bool", "System.Boolean"⟩,
  ⟨"int", "System.Int64"⟩,
  ⟨"float", "System.Double"⟩,
  ⟨"String", "System.String"⟩,
  ⟨"StringName", "Godot.StringName"⟩,
  ⟨"NodePath", "Godot.NodePath"⟩,
  ⟨"Vector2", "Godot.Vector2"⟩,
  ⟨"Vector2i", "Godot.Vector2I"⟩,
  ⟨"Vector3", "Godot.Vector3"⟩,
  ⟨"Vector3i", "Godot.Vector3I"⟩,
  ⟨"Rect2", "Godot.Rect2"⟩,
  ⟨"Transform2D", "Godot.Transform2D"⟩,
  ⟨"Color", "Godot.Color"⟩,
  ⟨"Callable", "Godot.Callable"⟩,
  ⟨"Signal", "Godot.Signal"⟩,
  ⟨"Array", "Godot.Collections.Array"⟩,
  ⟨"Dictionary", "Godot.Collections.Dictionary"⟩,
  ⟨"Variant", "Godot.Variant"⟩]

def standardProperties : List Property :=
  [.static "Engine" "Singleton" "Godot.EngineInstance" "Godot.Engine"]

end Override

def Overrides.standard : Overrides where
  enums := .groupBy (·.logicalName) Override.standardEnums
  methods := .groupBy (·.logicalName) Override.standardMethods
  constants := .ofList (Override.standardConstants.map fun c => (c.logicalName, c))
  types := .ofList (Override.standardTypes.map fun p => (p.logicalName, p))
  properties := .ofList (Override.standardProperties.map fun p => (p.logicalName, p))
  builtins := .groupBy (·.logicalName) Override.languageFunctions

end Concordance
