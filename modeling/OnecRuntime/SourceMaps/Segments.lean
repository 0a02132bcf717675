import OnecRuntime.Library.Tiling

/-!
# Source maps and their segments

Spans, source references, segments, and the checked constructor of a source
map, as `bsl/source_maps.py` has them.  Texts are lists of characters, offsets
count characters, and a value the source rejects on construction cannot be
built here: a span is ordered, an exact segment has one width, and a source map
carries the tiling its constructor checked.
-/

namespace OnecRuntime.SourceMaps

open OnecRuntime.Library

abbrev Text := List Char

instance lawfulText : LawfulBEq Text := inferInstance

theorem zero_le_zero : 0 ≤ 0 := Nat.le_refl 0

/-- The texts of the `ValueError`s the module raises. -/
abbrev SourceResult := Except String

structure SourceSpan where
  start : Nat
  stop : Nat
  ordered : start ≤ stop
  deriving DecidableEq, Repr

namespace SourceSpan

def width (span : SourceSpan) : Nat := span.stop - span.start

/-- The span of a given width at an offset. -/
def ofWidth (start width : Nat) : SourceSpan :=
  ⟨start, start + width, Nat.le_add_right _ _⟩

/-- The common part of two overlapping spans. -/
def intersect (first second : SourceSpan) : SourceSpan :=
  ⟨max first.start second.start,
    max (max first.start second.start) (min first.stop second.stop), Nat.le_max_left _ _⟩

/-- Move a span from one coordinate origin to another. -/
def rebase (span : SourceSpan) (source target : Nat) : SourceSpan :=
  ⟨target + (span.start - source), target + (span.stop - source),
    Nat.add_le_add_left (Nat.sub_le_sub_right span.ordered _) _⟩

/-- The smallest span that holds both. -/
def hull (first second : SourceSpan) : SourceSpan :=
  ⟨min first.start second.start, max first.stop second.stop,
    Nat.le_trans (Nat.min_le_left _ _) (Nat.le_trans first.ordered (Nat.le_max_left _ _))⟩

/-- An offset, moved into the span. -/
def clamp (span : SourceSpan) (offset : Nat) : Nat :=
  max span.start (min span.stop offset)

theorem clamp_monotone (span : SourceSpan) : Monotone span.clamp := by
  intro lower upper le
  unfold clamp
  omega

/-- The characters of a text inside a span. -/
def slice (span : SourceSpan) (text : Text) : Text :=
  (text.drop span.start).take span.width

@[simp] theorem ofWidth_start (start width : Nat) : (ofWidth start width).start = start := rfl

@[simp] theorem ofWidth_stop (start width : Nat) :
    (ofWidth start width).stop = start + width := rfl

@[simp] theorem width_ofWidth (start width : Nat) : (ofWidth start width).width = width :=
  Nat.add_sub_cancel_left ..

@[simp] theorem rebase_start (span : SourceSpan) (source target : Nat) :
    (span.rebase source target).start = target + (span.start - source) := rfl

@[simp] theorem rebase_stop (span : SourceSpan) (source target : Nat) :
    (span.rebase source target).stop = target + (span.stop - source) := rfl

@[simp] theorem intersect_start (first second : SourceSpan) :
    (first.intersect second).start = max first.start second.start := rfl

@[simp] theorem intersect_stop (first second : SourceSpan) :
    (first.intersect second).stop =
      max (max first.start second.start) (min first.stop second.stop) := rfl

@[simp] theorem hull_start (first second : SourceSpan) :
    (first.hull second).start = min first.start second.start := rfl

@[simp] theorem hull_stop (first second : SourceSpan) :
    (first.hull second).stop = max first.stop second.stop := rfl

@[ext] theorem ext {first second : SourceSpan} (starts : first.start = second.start)
    (stops : first.stop = second.stop) : first = second := by
  cases first; cases second
  simp_all

theorem getElem?_slice (span : SourceSpan) (text : Text) (index : Nat) :
    (span.slice text)[index]? = if index < span.width then text[span.start + index]? else none := by
  rw [slice, List.getElem?_take, List.getElem?_drop]

theorem length_slice {span : SourceSpan} {text : Text} (inside : span.stop ≤ text.length) :
    (span.slice text).length = span.width := by
  have ordered := span.ordered
  rw [slice, List.length_take, List.length_drop, width]
  omega

end SourceSpan

inductive SourceUnitKind where
  | notebookCell
  | module
  | testModule
  deriving DecidableEq, Repr

inductive SourceArtifactKind where
  | visible
  | workerProjection
  | statementProjection
  | semanticLowering
  | collectorWrapper
  | workerModule
  | executedBsl
  deriving DecidableEq, Repr

structure SourceUnitRef where
  kind : SourceUnitKind
  unitId : String
  revision : Nat
  sourceSha256 : String
  deriving DecidableEq, Repr

/-- The optional identity metadata of an artifact. -/
structure ArtifactIdentity where
  loweringSemanticVersion : Option String := none
  wrapperSemanticVersion : Option String := none
  mode : Option String := none
  workerGeneration : Option Nat := none
  workerManifestSha256 : Option String := none
  exportCatalogSha256 : Option String := none
  deriving DecidableEq, Repr

structure SourceArtifactRef where
  kind : SourceArtifactKind
  sourceSha256 : String
  characterLength : Nat
  lineEndingKind : String
  identity : ArtifactIdentity := {}
  deriving DecidableEq, Repr

inductive SourceRef where
  | unit (ref : SourceUnitRef)
  | artifact (ref : SourceArtifactRef)
  deriving DecidableEq, Repr

def SourceRef.unit? : SourceRef → Option SourceUnitRef
  | .unit ref => some ref
  | .artifact _ => none

def SourceRef.isUnit : SourceRef → Bool
  | .unit _ => true
  | .artifact _ => false

theorem SourceRef.isUnit_iff {ref : SourceRef} : ref.isUnit = true ↔ ∃ unit, ref = .unit unit := by
  cases ref <;> simp [SourceRef.isUnit]

@[simp] theorem SourceRef.unit?_eq_some {ref : SourceRef} {unit : SourceUnitRef} :
    ref.unit? = some unit ↔ ref = .unit unit := by
  cases ref <;> simp [SourceRef.unit?]

inductive MappingRelation where
  | exact
  | derived
  | synthetic
  deriving DecidableEq, Repr

/-- A region name, which the source requires to be nonempty. -/
abbrev Region := { name : String // name ≠ "" }

/--
The origin of a segment.  The three constructors are the combinations that the
segment constructor of the source admits: exact text has an origin of its own
width, derived text an origin of any width, synthetic text none and a region.
-/
inductive Provenance where
  | exact (ref : SourceRef) (start : Nat) (region : Option Region)
  | derived (ref : SourceRef) (origin : SourceSpan) (region : Option Region)
  | synthetic (region : Region)
  deriving DecidableEq, Repr

structure SourceMapSegment where
  generated : SourceSpan
  provenance : Provenance
  anchor : Option (SourceRef × SourceSpan) := none
  deriving DecidableEq, Repr

namespace SourceMapSegment

def relation (segment : SourceMapSegment) : MappingRelation :=
  match segment.provenance with
  | .exact .. => .exact
  | .derived .. => .derived
  | .synthetic _ => .synthetic

theorem relation_eq_exact {segment : SourceMapSegment} :
    segment.relation = .exact ↔ ∃ ref start region, segment.provenance = .exact ref start region := by
  unfold relation
  cases segment.provenance with
  | exact ref start region => exact ⟨fun _ => ⟨ref, start, region, rfl⟩, fun _ => rfl⟩
  | derived => exact ⟨fun impossible => (by cases impossible), fun ⟨_, _, _, h⟩ => by cases h⟩
  | synthetic => exact ⟨fun impossible => (by cases impossible), fun ⟨_, _, _, h⟩ => by cases h⟩

def originRef (segment : SourceMapSegment) : Option SourceRef :=
  match segment.provenance with
  | .exact ref _ _ => some ref
  | .derived ref _ _ => some ref
  | .synthetic _ => none

def origin (segment : SourceMapSegment) : Option SourceSpan :=
  match segment.provenance with
  | .exact _ start _ => some (.ofWidth start segment.generated.width)
  | .derived _ origin _ => some origin
  | .synthetic _ => none

def syntheticRegion (segment : SourceMapSegment) : Option Region :=
  match segment.provenance with
  | .exact _ _ region => region
  | .derived _ _ region => region
  | .synthetic region => some region

def anchorRef (segment : SourceMapSegment) : Option SourceRef := segment.anchor.map Prod.fst

/-- The anchor, where it names a visible source unit. -/
def anchorUnit (segment : SourceMapSegment) : Option (SourceUnitRef × SourceSpan) :=
  segment.anchor.bind fun pair => pair.1.unit?.map fun unit => (unit, pair.2)

def start (segment : SourceMapSegment) : Nat := segment.generated.start

def stop (segment : SourceMapSegment) : Nat := segment.generated.stop

def positive (segment : SourceMapSegment) : Bool := decide (segment.start < segment.stop)

theorem ordered (segment : SourceMapSegment) : segment.start ≤ segment.stop :=
  segment.generated.ordered

/-- The bounds check of one reference against the artifact it names. -/
def referenceInBounds : Option SourceRef → Option SourceSpan → Bool
  | some (.artifact ref), some span => decide (span.stop ≤ ref.characterLength)
  | _, _ => true

def inBounds (segment : SourceMapSegment) : Bool :=
  referenceInBounds segment.originRef segment.origin &&
    referenceInBounds segment.anchorRef (segment.anchor.map Prod.snd)

end SourceMapSegment

/-- The segments tile a generated text. -/
abbrev Covering (first last : Nat) (segments : List SourceMapSegment) : Prop :=
  Tiles SourceMapSegment.start SourceMapSegment.stop first last segments

/-- The segment whose nonempty text holds an offset. -/
abbrev segmentAt (segments : List SourceMapSegment) (offset : Nat) : Option SourceMapSegment :=
  pieceAt SourceMapSegment.start SourceMapSegment.stop segments offset

/-- The loop of the map constructor; it returns the final cursor. -/
def checkSegments (length : Nat) (cursor : Nat) (previousStart : Int) :
    List SourceMapSegment → SourceResult Nat
  | [] => .ok cursor
  | segment :: rest =>
      if length < segment.stop then
        .error "generated segment is out of bounds"
      else if (segment.start : Int) < previousStart ∨ segment.start < cursor then
        .error "source map segments must be ordered and non-overlapping"
      else if cursor < segment.start then
        .error "source map must provide full generated coverage"
      else if ¬ SourceMapSegment.referenceInBounds segment.originRef segment.origin then
        .error "segment origin is out of bounds"
      else if ¬ SourceMapSegment.referenceInBounds segment.anchorRef
          (segment.anchor.map Prod.snd) then
        .error "segment anchor is out of bounds"
      else
        checkSegments length (max cursor segment.stop) segment.start rest

variable {segments : List SourceMapSegment}

theorem checkSegments_covering {length cursor final : Nat} {previousStart : Int}
    (checked : checkSegments length cursor previousStart segments = .ok final) :
    Covering cursor final segments := by
  induction segments generalizing cursor previousStart with
  | nil => exact Except.ok.inj checked
  | cons segment rest ih =>
      unfold checkSegments at checked
      split_ifs at checked with outside unordered gap
      have ordered := segment.ordered
      have same : max cursor segment.stop = segment.stop := by omega
      refine ⟨by omega, by omega, ?_⟩
      rw [← same]
      exact ih checked

theorem checkSegments_inBounds {length cursor final : Nat} {previousStart : Int}
    (checked : checkSegments length cursor previousStart segments = .ok final) :
    ∀ segment ∈ segments, segment.inBounds = true := by
  induction segments generalizing cursor previousStart with
  | nil => intro segment member; cases member
  | cons head rest ih =>
      unfold checkSegments at checked
      split_ifs at checked with outside unordered gap origins anchors
      intro segment member
      rcases List.mem_cons.mp member with rfl | inside
      · simp_all [SourceMapSegment.inBounds]
      · exact ih checked segment inside

/-- A source map: its segments cover the generated text exactly once, in order. -/
structure SourceMap where
  generated : SourceArtifactRef
  segments : List SourceMapSegment
  nonempty : segments ≠ []
  covering : Covering 0 generated.characterLength segments
  bounded : ∀ segment ∈ segments, segment.inBounds = true
  deriving DecidableEq

namespace SourceMap

/-- The checked constructor of the source. -/
def make (generated : SourceArtifactRef) (segments : List SourceMapSegment) :
    SourceResult SourceMap :=
  if nonempty : segments = [] then
    .error "source map requires segments for full generated coverage"
  else
    match checked : checkSegments generated.characterLength 0 (-1) segments with
    | .error message => .error message
    | .ok cursor =>
        if full : cursor = generated.characterLength then
          .ok ⟨generated, segments, nonempty, full ▸ checkSegments_covering checked,
            checkSegments_inBounds checked⟩
        else
          .error "source map must provide full generated coverage"

theorem make_eq {generated : SourceArtifactRef} {segments : List SourceMapSegment}
    {map : SourceMap} (made : make generated segments = .ok map) :
    map.generated = generated ∧ map.segments = segments := by
  unfold make at made
  split_ifs at made with empty
  split at made
  · cases made
  · split_ifs at made with full
    obtain rfl := Except.ok.inj made
    exact ⟨rfl, rfl⟩

end SourceMap

/-- Only visible units are left as origins and anchors. -/
def flattenedSegment (segment : SourceMapSegment) : Bool :=
  segment.originRef.all SourceRef.isUnit && segment.anchorRef.all SourceRef.isUnit

def validateFlattenedMap (name : String) : List SourceMapSegment → SourceResult Unit
  | [] => .ok ()
  | segment :: rest =>
      if ¬ segment.originRef.all SourceRef.isUnit then
        .error (name ++ " must reference visible source units")
      else if ¬ segment.anchorRef.all SourceRef.isUnit then
        .error (name ++ " anchors must reference visible source units")
      else
        validateFlattenedMap name rest

theorem validateFlattenedMap_ok {name : String}
    (valid : validateFlattenedMap name segments = .ok ()) :
    ∀ segment ∈ segments, flattenedSegment segment = true := by
  induction segments with
  | nil => intro segment member; cases member
  | cons head rest ih =>
      unfold validateFlattenedMap at valid
      split_ifs at valid with origins anchors
      intro segment member
      rcases List.mem_cons.mp member with rfl | inside
      · simp_all [flattenedSegment]
      · exact ih valid segment inside

end OnecRuntime.SourceMaps
