import OnecRuntime.Library.Fallible
import OnecRuntime.Library.Json

/-!
# Proxy descriptors

The public description of a value proxy, and the checks that the constructors of a fence
and of a descriptor make. The identifiers that `uuid4` returns are numbered in the order
in which they are drawn.
-/

namespace OnecRuntime.Proxies

open OnecRuntime.Library

/-- What the registry carries without looking into it, and the case folding of names. -/
structure Carriers where
  CaptureFence : Type
  Handle : Type
  /-- The provenance, the known size and the bounded preview, each checked where it was built. -/
  Details : Type
  casefold : CodeText → CodeText
  fenceEquality : DecidableEq CaptureFence

instance captureFenceDecidableEq (carriers : Carriers) : DecidableEq carriers.CaptureFence :=
  carriers.fenceEquality

abbrev ProxyId := Nat

inductive ProxyRealm where
  | onec
  | python
deriving DecidableEq, Repr

inductive ProxyLifetime where
  | context
  | frame
  | snapshot
  | workspace
deriving DecidableEq, Repr

inductive ProxyConsistency where
  | exact
  | latest
deriving DecidableEq, Repr

inductive ProxyFailure where
  | releasedProxy
  | staleGeneration
  | superseded
  | crossesFence
  | unknownProxy
  | unknownBinding
  | unprefixedName
  | publicationActive
  | invalidCheckpoint
  | unmatchedFence
  /-- A lookup of the registry itself finds no entry. -/
  | keyError
  | emptyText (name : String)
  | unboundedText (name : String) (maximum : Nat)
  | notPositive (name : String)
  | unidentifiedCapture
  | emptyCapability
  | repeatedCapability
deriving DecidableEq, Repr

namespace ProxyFailure

def message : ProxyFailure → String
  | .releasedProxy => "value proxy was released"
  | .staleGeneration => "value proxy generation is stale"
  | .superseded => "exact value proxy version was superseded"
  | .crossesFence => "latest value proxy cannot cross a generation fence"
  | .unknownProxy => "value proxy is unknown"
  | .unknownBinding => "variable binding is unknown"
  | .unprefixedName => "qualified variable name requires bsl. or python. prefix"
  | .publicationActive => "capture publication transaction is already active"
  | .invalidCheckpoint => "capture publication checkpoint is invalid"
  | .unmatchedFence => "capture publication checkpoint does not match frame fence"
  | .keyError => ""
  | .emptyText name => name ++ " must be a non-empty string"
  | .unboundedText name maximum =>
      name ++ " must be bounded to " ++ toString maximum ++ " characters"
  | .notPositive name => name ++ " must be positive"
  | .unidentifiedCapture => "capture-scoped proxy fence requires runtime identity and generation"
  | .emptyCapability => "capabilities must contain non-empty strings"
  | .repeatedCapability => "capabilities must be unique"

/-- A `ReleasedProxy` or a `StaleProxy`. -/
def Expected : ProxyFailure → Prop
  | .releasedProxy | .staleGeneration | .superseded | .crossesFence => True
  | _ => False

end ProxyFailure

/-! ## Checks -/

/-- `str.isspace` of one character. -/
def isSpace (character : CodePoint) : Bool :=
  character.val ∈ [0x09, 0x0A, 0x0B, 0x0C, 0x0D, 0x1C, 0x1D, 0x1E, 0x1F, 0x20, 0x85, 0xA0, 0x1680,
    0x2000, 0x2001, 0x2002, 0x2003, 0x2004, 0x2005, 0x2006, 0x2007, 0x2008, 0x2009, 0x200A,
    0x2028, 0x2029, 0x202F, 0x205F, 0x3000]

/-- `not value.strip()`. -/
def isBlankText (value : CodeText) : Bool := value.all isSpace

def requireText (value : CodeText) (name : String) (maximum : Nat) : Except ProxyFailure Unit := do
  require (isBlankText value = false) (.emptyText name)
  require (value.length ≤ maximum) (.unboundedText name maximum)

def requirePositiveInt (value : Int) (name : String) : Except ProxyFailure Unit :=
  require (0 < value) (.notPositive name)

/-- A check of a value that may be `None`. -/
def optionally {α : Type} (check : α → Except ProxyFailure Unit) : Option α →
    Except ProxyFailure Unit
  | none => .ok ()
  | some value => check value

def maxQualifiedName : Nat := 512

def maxTypeName : Nat := 256

structure ProxyFence (carriers : Carriers) where
  runtimeId : Option CodeText
  runtimeGeneration : Option Int
  contextGeneration : Option Int
  pythonGeneration : Option Int
  captureFence : Option carriers.CaptureFence
deriving DecidableEq

variable {carriers : Carriers}

/-- `ProxyFence.__post_init__`. -/
def ProxyFence.validate (fence : ProxyFence carriers) : Except ProxyFailure Unit := do
  optionally (requireText · "runtime_id" 256) fence.runtimeId
  optionally (requirePositiveInt · "runtime_generation") fence.runtimeGeneration
  optionally (requirePositiveInt · "context_generation") fence.contextGeneration
  optionally (requirePositiveInt · "python_generation") fence.pythonGeneration
  require (fence.captureFence = none ∨
    fence.runtimeId.isSome = true ∧ fence.runtimeGeneration.isSome = true) .unidentifiedCapture

structure ProxyDescriptor (carriers : Carriers) where
  proxyId : ProxyId
  realm : ProxyRealm
  lifetime : ProxyLifetime
  qualifiedName : CodeText
  typeName : CodeText
  version : Nat
  consistency : ProxyConsistency
  fence : ProxyFence carriers
  capabilities : List CodeText
  details : carriers.Details

/-- `ProxyDescriptor.__post_init__`. -/
def ProxyDescriptor.validate (descriptor : ProxyDescriptor carriers) :
    Except ProxyFailure Unit := do
  requireText descriptor.qualifiedName "qualified_name" maxQualifiedName
  requireText descriptor.typeName "type_name" maxTypeName
  requirePositiveInt descriptor.version "version"
  require (descriptor.capabilities.all (fun item => !isBlankText item) = true) .emptyCapability
  require descriptor.capabilities.Nodup .repeatedCapability

abbrev BindingKey := ProxyRealm × CodeText

/-- `_qualified_name_key`, with its realm. -/
def bindingKey (carriers : Carriers) (realm : ProxyRealm) (qualifiedName : CodeText) :
    BindingKey :=
  (realm, match realm with
    | .python => qualifiedName
    | .onec => carriers.casefold qualifiedName)

def ProxyDescriptor.key (descriptor : ProxyDescriptor carriers) : BindingKey :=
  bindingKey carriers descriptor.realm descriptor.qualifiedName

structure ProxyRecord (carriers : Carriers) where
  descriptor : ProxyDescriptor carriers
  resolverHandle : Option carriers.Handle
  exactAnchorId : Option ProxyId
  stale : Bool
  released : Bool

/-- `_ProxyRecord(descriptor, resolver_handle)` of a registration. -/
def ProxyRecord.registered (descriptor : ProxyDescriptor carriers)
    (resolverHandle : Option carriers.Handle) : ProxyRecord carriers :=
  ⟨descriptor, resolverHandle, none, false, false⟩

/-! ## Registrations -/

/-- The arguments that every registration has. -/
structure ProxyArguments (carriers : Carriers) where
  qualifiedName : CodeText
  typeName : CodeText
  consistency : ProxyConsistency
  resolverHandle : Option carriers.Handle
  capabilities : List CodeText
  details : carriers.Details

/-- The arguments of a registration in a context. -/
structure ContextEntry (carriers : Carriers) where
  arguments : ProxyArguments carriers
  runtimeId : CodeText
  runtimeGeneration : Int
  contextGeneration : Int

/-- What `_register` takes. -/
structure Registration (carriers : Carriers) where
  realm : ProxyRealm
  lifetime : ProxyLifetime
  fence : ProxyFence carriers
  arguments : ProxyArguments carriers

namespace Registration

/-- `register_context`. -/
def context (entry : ContextEntry carriers) : Registration carriers :=
  ⟨.onec, .context,
    ⟨some entry.runtimeId, some entry.runtimeGeneration, some entry.contextGeneration, none, none⟩,
    entry.arguments⟩

/-- `register_python`. -/
def python (arguments : ProxyArguments carriers) (pythonGeneration : Int) :
    Registration carriers :=
  ⟨.python, .workspace, ⟨none, none, none, some pythonGeneration, none⟩, arguments⟩

/-- `register_frame`. -/
def frame (entry : ContextEntry carriers) (captureFence : carriers.CaptureFence) :
    Registration carriers :=
  ⟨.onec, .frame,
    ⟨some entry.runtimeId, some entry.runtimeGeneration, some entry.contextGeneration, none,
      some captureFence⟩, entry.arguments⟩

def key (registration : Registration carriers) : BindingKey :=
  bindingKey carriers registration.realm registration.arguments.qualifiedName

def descriptor (registration : Registration carriers) (proxyId : ProxyId) (version : Nat) :
    ProxyDescriptor carriers :=
  ⟨proxyId, registration.realm, registration.lifetime, registration.arguments.qualifiedName,
    registration.arguments.typeName, version, registration.arguments.consistency,
    registration.fence, registration.arguments.capabilities, registration.arguments.details⟩

end Registration

end OnecRuntime.Proxies
