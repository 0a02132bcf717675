import Mathlib.Data.List.Basic
import OnecRuntime.Library.Dictionary
import OnecRuntime.Library.Recursion

/-!
# Values with attributes

Values of the runtime as the redaction sees them: by the name of their class, their attributes, and
the fields that make them an instance of a dataclass. A key of a mapping is given by what `str`
makes of it.
-/

namespace OnecRuntime.Privacy

inductive Scalar where
  | none
  | boolean (value : Bool)
  | integer (value : Int)
  | decimal (spelling : String)
  | identity (spelling : String)
deriving DecidableEq

inductive SequenceKind where
  | tuple
  | list
  | set
  | frozenset
  | other
deriving DecidableEq

inductive MappingKind where
  | dict
  | other
deriving DecidableEq

/-- The fields of an object are `none` if it is no instance of a dataclass. -/
inductive Value where
  | scalar (scalar : Scalar)
  | text (text : String)
  | member (enumeration name : String)
  | sequence (kind : SequenceKind) (items : List Value)
  | mapping (kind : MappingKind) (entries : List (String × Value))
  | object (kind : String) (fields : Option (List String)) (attributes : List (String × Value))

namespace Value

/-- `value.name`. -/
def attribute? : Value → String → Option Value
  | .object _ _ attributes, name => attributes.lookup name
  | _, _ => none

/-- `len(value)`. -/
def length? : Value → Option Nat
  | .sequence _ items => some items.length
  | .mapping _ entries => some entries.length
  | .text content => some content.length
  | _ => none

def text? : Value → Option String
  | .text content => some content
  | _ => none

mutual

def depth : Value → Nat
  | .sequence _ items => depthOfItems items + 1
  | .mapping _ entries => depthOfEntries entries + 1
  | .object _ _ attributes => depthOfEntries attributes + 1
  | _ => 0

def depthOfItems : List Value → Nat
  | [] => 0
  | item :: rest => max item.depth (depthOfItems rest)

def depthOfEntries : List (String × Value) → Nat
  | [] => 0
  | (_, value) :: rest => max value.depth (depthOfEntries rest)

end

end Value

end OnecRuntime.Privacy

/-!
# Public values of evidence

Saved evidence holds no reversible source. The redaction asks for the name of a value's class: some
classes have a form of their own, an instance of any other dataclass is published field by field,
mappings and sequences item by item, and everything else is published as it is.
-/

namespace OnecRuntime.Privacy

open OnecRuntime.Library

inductive Failure where
  | missing (name : String)
  | type
  | recursion

/-- What a form takes from an object: an attribute as it is, its public value, that of an attribute
of an attribute, the digest of a source, a length, or nothing of the object. -/
inductive Part where
  | here (name : String)
  | published (name : String)
  | through (name inner : String)
  | digest (name : String)
  | count (name : String)
  | constant (value : Value)

inductive Reading where
  | part (part : Part)
  /-- Nothing if the attribute is `None`, else a mapping of parts of the attribute. -/
  | optional (name : String) (parts : List (String × Part))

inductive Form where
  | constant (text : String)
  | mapping (readings : List (String × Reading))

def here (name : String) : String × Reading := (name, .part (.here name))

def published (name : String) : String × Reading := (name, .part (.published name))

def sourceDigest (name : String) : String × Reading := (name ++ "_sha256", .part (.digest name))

/-- The classes that have a form, by their names. -/
def formOf : String → Option Form
  | "CaptureView" => some (.mapping [("type", .part (.constant (.text "CaptureView")))])
  | "ValueNode" => some (.mapping [here "name", here "type_name", here "preview", here "size",
      here "expandable", published "shape", published "path", here "cycle"])
  | "DeniedValueNode" => some (.mapping [here "name", ("access", .part (.constant (.text "denied"))),
      ("expandable", .part (.constant (.scalar (.boolean false))))])
  | "ValuePage" => some (.mapping [published "items", here "total", here "next_cursor",
      published "path", here "view", here "start", here "stop"])
  | "SafeValuePath" => some (.mapping [published "root", published "segments"])
  | "ValueRoot" => some (.mapping [here "kind", here "native_level"])
  | "SafePathSegment" => some (.mapping [here "kind", here "key"])
  | "PrivateProjectedValue" => some (.constant "<private capture projection>")
  | "DebugFrame" => some (.mapping [here "native_level", here "visible_index", here "source",
      here "line", here "source_status", here "detail",
      ("method", .optional "method" [("name", .here "name"), ("parameters", .published "parameters"),
        ("start_line", .here "start_line"), ("end_line", .here "end_line")]),
      here "method_status", here "method_reason", here "runtime_kernel", here "source_sha256"])
  | "RuntimeFrameMarker" => some (.mapping [here "count"])
  | "StackPage" => some (.mapping [published "frames", here "total", here "next_cursor",
      here "detail", here "native"])
  | "CaptureContextView" => some (.mapping [("root", .part (.published "_root"))])
  | "VariableDescriptor" => some (.mapping [("root", .part (.published "_root")),
      ("role", .part (.here "_role"))])
  | "ChildValueDescriptor" => some (.mapping [("path", .part (.through "_node" "path")),
      ("alias", .part (.here "_alias"))])
  | "ModuleLocation" => some (.mapping [here "module_type", here "line", here "extension_name"])
  | "WorkerGenerationDebugView" => some (.mapping [published "handle",
      ("module_count", .part (.count "modules"))])
  | "WorkerModuleDebugView" => some (.mapping [published "source_unit", here "canonical_module",
      here "artifact_sha256", here "source_map_sha256"])
  | "WorkerBreakpointPlan" => some (.mapping [here "proposal_id", here "expected_catalog_version",
      here "result_id", ("desired_slot_count", .part (.count "desired_slots")),
      published "removed_ids", published "next_snapshot"])
  | "WorkerBreakpointBinding" => some (.mapping [here "breakpoint_id", published "generation",
      published "location"])
  | "WorkerFrameProvenance" => some (.constant "<redacted worker frame provenance>")
  | "WorkerArtifact" => some (.mapping [here "logical_name", here "source_sha256",
      here "source_map_sha256", here "artifact_sha256", published "source_provenance",
      published "exports"])
  | "OperationHandle" => some (.mapping [here "operation_id", sourceDigest "visible_source",
      sourceDigest "lowered_source", here "messages_intercepted"])
  | "CaptureCellResult" => some (.mapping [here "operation_id", sourceDigest "visible_source",
      sourceDigest "lowered_source", published "result", published "messages"])
  | "NotebookCell" => some (.mapping [sourceDigest "worker_source", sourceDigest "statement_source",
      published "exports"])
  | _ => none

/-- `value.name`, which may raise. -/
def Value.get (value : Value) (name : String) : Except Failure Value :=
  match value.attribute? name with
  | some inner => .ok inner
  | none => .error (.missing name)

def sourceFields : List String :=
  ["visible_source", "lowered_source", "worker_source", "statement_source"]

/-- A source leaves a mapping, and its digest comes in if it is a text. -/
def retire {ν : Type} (text? : ν → Option String) (ofDigest : String → ν)
    (result : Dictionary String ν) (name : String) : Dictionary String ν :=
  match (result.get? name).bind text? with
  | some source => (result.erase name).set (name ++ "_sha256") (ofDigest source)
  | none => result.erase name

section Publishing

variable (digest : String → String) (publish : Value → Except Failure Value)

def Part.read (value : Value) : Part → Except Failure Value
  | .here name => value.get name
  | .published name => do publish (← value.get name)
  | .through name inner => do publish (← (← value.get name).get inner)
  | .digest name => do
      match (← value.get name).text? with
      | some source => .ok (.text (digest source))
      | none => .error .type
  | .count name => do
      match (← value.get name).length? with
      | some length => .ok (.scalar (.integer length))
      | none => .error .type
  | .constant fixed => .ok fixed

def readParts (value : Value) (parts : List (String × Part)) : Except Failure Value := do
  let entries ← parts.mapM fun (name, part) => do pure (name, ← part.read digest publish value)
  pure (.mapping .dict entries)

def Reading.read (value : Value) : Reading → Except Failure Value
  | .part asked => asked.read digest publish value
  | .optional name parts => do
      match ← value.get name with
      | .scalar .none => pure (.scalar .none)
      | inner => readParts digest publish inner parts

def Form.read (value : Value) : Form → Except Failure Value
  | .constant text => pure (.text text)
  | .mapping readings => do
      let entries ← readings.mapM fun (name, reading) => do
        pure (name, ← reading.read digest publish value)
      pure (.mapping .dict entries)

end Publishing

end OnecRuntime.Privacy
