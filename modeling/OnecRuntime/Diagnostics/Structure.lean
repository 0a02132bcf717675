import OnecRuntime.Diagnostics.PatternLaw
import OnecRuntime.Diagnostics.Patterns
import OnecRuntime.Library.Spelling
import OnecRuntime.Library.Utf8Cut

/-!
# The structure of a platform diagnostic

`parse_platform_diagnostic` of `bsl/diagnostics.py`: the message is bounded, its locators are
accepted, and causes, frames and categories are told from the places of the matches. The hash and
the case folding are parameters.
-/

namespace OnecRuntime.Diagnostics

open OnecRuntime.Library
open OnecRuntime.Bsl (isSpace)
open OnecRuntime.SourceMaps (Text)

/-! ## Limits -/

def platformDiagnosticLimitBytes : Nat := 64 * 1024
def platformFrameLimit : Nat := 128
def platformCauseLimit : Nat := 32
def platformCategoryNameLimit : Nat := 16
def platformCategoryLabelLimit : Nat := 128
def platformCoordinateLimit : Nat := 10000000
def moduleLocatorLimit : Nat := 512
def moduleComponentLimit : Nat := 32

/-! ## Records -/

inductive DiagnosticCoordinateSpace where
  | unknown
  | executedBsl
  | hostModule
  deriving DecidableEq, Repr

/-- A worker artifact's location is the name of its registration. -/
structure PlatformDiagnosticLocation where
  moduleName : Option Text
  moduleComponents : List Text
  workerArtifactLocation : Option Text
  line : Nat
  column : Option Nat
  coordinateSpace : DiagnosticCoordinateSpace
  extensionName : Option Text
  deriving DecidableEq, Repr

/-- `_AcceptedPlatformLocation`. -/
structure AcceptedPlatformLocation where
  span : Span
  location : PlatformDiagnosticLocation

structure DiagnosticCategoryBlock where
  span : Span
  names : List Text

structure ParsedDiagnosticCause where
  ordinal : Nat
  summarySpan : Span
  blockSpan : Span
  frameOrdinals : List Nat
  category : Option DiagnosticCategoryBlock

structure ParsedDiagnosticFrame where
  ordinal : Nat
  causeOrdinal : Option Nat
  location : PlatformDiagnosticLocation
  blockSpan : Span
  detailSpan : Option Span

structure DiagnosticStructure where
  causes : List ParsedDiagnosticCause
  frames : List ParsedDiagnosticFrame
  opaqueSpans : List Span
  framesTruncated : Bool
  causesTruncated : Bool

/-! ## Locations -/

/-- `int` of decimal digits. -/
def decimalValue (digits : Text) : Nat :=
  digits.foldl (fun value digit => 10 * value + (digit.toNat - '0'.toNat)) 0

/-- `[0-9a-f]` ignoring case. -/
def isHexDigit (char : Char) : Bool :=
  char.isDigit || ['a', 'b', 'c', 'd', 'e', 'f'].any fun letter => ignoringCase letter char

/-- `_WORKER_REGISTRATION_RE`, matched in full. -/
def isWorkerRegistration (name : Text) : Bool :=
  match takeWord "OnecRuntime_".toList name with
  | none => false
  | some rest =>
      rest.length = 25 && (rest.take 8).all isHexDigit && rest[8]? = some '_' &&
        (rest.drop 9).all isHexDigit

section Locations

variable (casefold : Text → Text)

/-- `_parse_worker_artifact_location`. -/
def parseWorkerArtifactLocation : List Text → Option Text
  | [kind, registration, role] =>
      if casefold kind = "внешняяобработка".toList ∧ isWorkerRegistration registration ∧
          casefold role = "модульобъекта".toList then some registration
      else none
  | _ => none

def moduleOf (locator : Locator) : Option Text := locator.unknown <|> locator.module

def componentsOf : Option Text → List Text
  | none => []
  | some module => if module ∈ unknownModules then [module] else module.splitOn '.'

def coordinateSpaceOf : Option Text → DiagnosticCoordinateSpace
  | none => .unknown
  | some module => if module ∈ unknownModules then .executedBsl else .hostModule

/-- A locator that is too long or has no line is not accepted. -/
def acceptLocation (found : Found Locator) : Option AcceptedPlatformLocation :=
  let locator := found.value
  let module := moduleOf locator
  let components := componentsOf module
  let line := decimalValue locator.line
  let column := locator.column.map decimalValue
  if module.any (moduleLocatorLimit < ·.length) ∨ locator.extension.any (moduleLocatorLimit < ·.length) ∨
      moduleComponentLimit < components.length ∨ column = none ∧ line = 0 then none
  else
    let worker := if locator.extension.isSome then none else parseWorkerArtifactLocation casefold components
    some ⟨found.span,
      ⟨module, components, worker, line, column, coordinateSpaceOf module, locator.extension⟩⟩

/-- `_accepted_platform_locations`. -/
def acceptedPlatformLocations (text : Text) : List AcceptedPlatformLocation :=
  (lineMatches locationPattern text).filterMap (acceptLocation casefold)

end Locations

/-! ## Spans -/

/-- `_trim_diagnostic_span`. -/
def trimDiagnosticSpan (text : Text) (start stop : Nat) : Span :=
  let inner := (text.take stop).drop start
  let leading := (inner.takeWhile isSpace).length
  let trailing := ((inner.drop leading).reverse.takeWhile isSpace).length
  ⟨start + leading, stop - trailing⟩

/-- `_frame_detail_span`. -/
def frameDetailSpan (text : Text) (locatorEnd blockEnd : Nat) : Option Span :=
  let start := if locatorEnd < blockEnd ∧ text[locatorEnd]? = some ':' then locatorEnd + 1 else locatorEnd
  let span := trimDiagnosticSpan text start blockEnd
  if span.start = span.stop then none else some span

/-- `_complement_spans`. -/
def complementSpans (textLength : Nat) (consumed : List Span) : List Span :=
  Span.freeOf textLength consumed

/-- `_trace_location_is_bounded`. -/
def traceLocationIsBounded (location : PlatformDiagnosticLocation) : Bool :=
  location.line ≤ platformCoordinateLimit && location.column.all (· ≤ platformCoordinateLimit)

def holdsStart (block : Span) (place : Nat) : Bool := block.start ≤ place ∧ place < block.stop

/-! ## Causes and frames -/

/-- The text between the boundaries. -/
def causeBlocksOf (text : Text) (markers : List (Found Unit)) : List Span :=
  if text = [] then []
  else List.zipWith Span.mk (0 :: markers.map (·.span.stop)) (markers.map (·.span.start) ++ [text.length])

/-- Where a block of a diagnostic may start. -/
def diagnosticBlockStarts (text : Text) (categories : List (Found Text)) : List Nat :=
  sortedBy id ((lineMatches blockStart text).map (·.span.start) ++ categories.map (·.span.start))

def frameOf (text : Text) (blocks : List Span) (blockStarts : List Nat) (ordinal : Nat)
    (item : AcceptedPlatformLocation) : ParsedDiagnosticFrame :=
  let causeIndex := blocks.findIdx? (holdsStart · item.span.start)
  let causeEnd := ((causeIndex.bind (blocks[·]?)).map Span.stop).getD text.length
  let nextBlockStart := (blockStarts.find? (item.span.start < ·)).getD causeEnd
  let blockEnd := min nextBlockStart causeEnd
  ⟨ordinal, causeIndex.filter (· < (blocks.take platformCauseLimit).length), item.location,
    ⟨item.span.start, blockEnd⟩, frameDetailSpan text item.span.stop blockEnd⟩

/-- `str.strip`. -/
def strip (text : Text) : Text := ((text.dropWhile isSpace).reverse.dropWhile isSpace).reverse

/-- The names of a category, unless there are too many of them or one is too long. -/
def categoryOf : List (Found Text) → Option DiagnosticCategoryBlock
  | [found] =>
      let names := (found.value.splitOn ',').map strip
      if names.length ≤ platformCategoryNameLimit ∧
          ∀ name ∈ names, name.length ≤ platformCategoryLabelLimit then some ⟨found.span, names⟩
      else none
  | _ => none

def causeOf (text : Text) (accepted : List AcceptedPlatformLocation) (categories : List (Found Text))
    (frames : List ParsedDiagnosticFrame) (ordinal : Nat) (block : Span) : ParsedDiagnosticCause :=
  let firstLocator :=
    ((accepted.find? fun item => holdsStart block item.span.start).map (·.span.start)).getD block.stop
  let causeCategories := categories.filter fun found => holdsStart block found.span.start
  let summaryEnd := (causeCategories.map (·.span.start)).foldl min firstLocator
  ⟨ordinal, trimDiagnosticSpan text block.start summaryEnd, block,
    (frames.filter fun frame => frame.causeOrdinal = some ordinal).map (·.ordinal),
    categoryOf causeCategories⟩

/-- What the causes and frames of a structure and the boundaries take of the text. -/
def consumedSpans (markers : List (Found Unit)) (causes : List ParsedDiagnosticCause)
    (frames : List ParsedDiagnosticFrame) : List Span :=
  markers.map (·.span) ++ causes.map (·.summarySpan) ++ frames.map (·.blockSpan) ++
    causes.filterMap fun cause => cause.category.map (·.span)

/-- `_parse_diagnostic_structure`. -/
def parseDiagnosticStructure (text : Text) (accepted : List AcceptedPlatformLocation) :
    DiagnosticStructure :=
  let markers := lineMatches causeBoundary text
  let categories := lineMatches categoryBlock text
  let causeBlocks := causeBlocksOf text markers
  let candidates := accepted.filter fun item => traceLocationIsBounded item.location
  let frames := (candidates.take platformFrameLimit).mapIdx
    (frameOf text causeBlocks (diagnosticBlockStarts text categories))
  let causes := (causeBlocks.take platformCauseLimit).mapIdx (causeOf text accepted categories frames)
  ⟨causes, frames, complementSpans text.length (consumedSpans markers causes frames),
    platformFrameLimit < candidates.length, platformCauseLimit < causeBlocks.length⟩

/-! ## Messages -/

/-- `message.encode("utf-8")`; a surrogate cannot be encoded. -/
def encodeUtf8 (message : CodeText) : Option (List UInt8) :=
  if message.any fun sign => isSurrogate sign.val then none else some (encodedText (message.map charOf))

/-- `_bound_platform_diagnostic`. -/
def boundPlatformDiagnostic (message : CodeText) (encoded : List UInt8) : Text × Bool :=
  if encoded.length ≤ platformDiagnosticLimitBytes then (message.map charOf, false)
  else (decodedIgnoring (encoded.take platformDiagnosticLimitBytes), true)

def compilationMarker : Text := "[ОшибкаКомпиляцииВстроенногоЯзыка]".toList

/-- `(?:\r?\n)?\Z`. -/
def endsText (text : Text) : Bool := text ∈ [[], ['\n'], ['\r', '\n']]

/-- What `(?:[ \t]+|\r?\n[ \t]*)` leaves at the head of a text. -/
def behindBlank : Text → List Text
  | '\n' :: rest => [skipTabs rest]
  | '\r' :: '\n' :: rest => [skipTabs rest]
  | first :: rest => if isTab first then [skipTabs rest] else []
  | [] => []

/-- `_COMPILATION_MARKER_RE`, searched. -/
def hasCompilationMarker (text : Text) : Bool :=
  text.tails.any fun tail => (behindBlank tail).any fun marked =>
    compilationMarker.isPrefixOf marked && endsText (skipTabs (marked.drop compilationMarker.length))

/-- `[ \t]*(?:по причине:|Reason:)[ \t]*\r?\n\Z`. -/
def endsWithReason (text : Text) : Bool :=
  let inked := skipTabs text
  match takeWord "по причине:".toList inked <|> takeWord "Reason:".toList inked with
  | none => false
  | some behind => skipTabs behind ∈ [['\n'], ['\r', '\n']]

/-- `_NESTED_COMPILE_CAUSE_PREFIX_RE`, searched. -/
def hasNestedCompileCause (text : Text) : Bool :=
  endsWithReason text || text.tails.any fun
    | '\n' :: rest => endsWithReason rest
    | '\r' :: '\n' :: rest => endsWithReason rest
    | _ => false

structure ParsedPlatformDiagnostic where
  platformDiagnostic : Text
  platformDiagnosticSha256 : String
  platformDiagnosticTruncated : Bool
  platformDiagnosticRedacted : Bool
  line : Option Nat
  column : Option Nat
  coordinateSpace : DiagnosticCoordinateSpace
  moduleName : Option Text
  additionalLocations : List (Nat × Nat)
  hasCompilationMarker : Bool
  locations : List PlatformDiagnosticLocation
  parsed : DiagnosticStructure

/-- A location with a column that stands at the head of the text, or the only one with a column
where a compilation failed. -/
def primaryLocation (text : Text) (columnLocations : List AcceptedPlatformLocation) :
    Option AcceptedPlatformLocation :=
  match columnLocations with
  | [] => none
  | first :: rest =>
      if first.span.start = 0 then some first
      else if hasCompilationMarker text ∧ rest = [] ∧
          (first.location.coordinateSpace = .executedBsl ∨
            first.location.workerArtifactLocation.isSome) ∧
          hasNestedCompileCause (text.take first.span.start) then some first
      else none

inductive DiagnosticFailure where
  | unicodeEncodeError
  deriving DecidableEq, Repr

section Parse

variable (casefold : Text → Text) (sha256 : List UInt8 → String)

/-- What is parsed of the bounded text. -/
def parseBounded (bounded : Text) (truncated : Bool) (digest : String) : ParsedPlatformDiagnostic :=
  let accepted := acceptedPlatformLocations casefold bounded
  let columnLocations := accepted.filter fun item => item.location.column.isSome
  let primary := primaryLocation bounded columnLocations
  let additional := (columnLocations.drop 1).filterMap fun item =>
    item.location.column.map fun column => (item.location.line, column)
  ⟨bounded, digest, truncated, false, primary.map (·.location.line), primary.bind (·.location.column),
    (primary.map (·.location.coordinateSpace)).getD .unknown, primary.bind (·.location.moduleName),
    if primary.isSome then additional else [], primary.isSome && hasCompilationMarker bounded,
    (accepted.take platformFrameLimit).map (·.location), parseDiagnosticStructure bounded accepted⟩

def parsePlatformDiagnostic (message : CodeText) : Except DiagnosticFailure ParsedPlatformDiagnostic :=
  match encodeUtf8 message with
  | none => .error .unicodeEncodeError
  | some encoded =>
      let bound := boundPlatformDiagnostic message encoded
      .ok (parseBounded casefold bound.1 bound.2 (sha256 encoded))

end Parse

end OnecRuntime.Diagnostics

/-!
# Blocks of a diagnostic

Where a locator that is accepted stands: in one of the blocks between the boundaries, apart from the
boundaries, the categories and the other locators, and in front of the next place where a block of
the diagnostic starts.
-/

namespace OnecRuntime.Diagnostics

open OnecRuntime.Library
open OnecRuntime.Bsl (isSpace)
open OnecRuntime.SourceMaps (Text)

def boundaries (text : Text) : List Span := (lineMatches causeBoundary text).map (·.span)

theorem separates_boundaries (text : Text) : Span.Separates 0 text.length (boundaries text) := by
  refine ⟨Nat.zero_le _, ?_, ?_⟩
  · exact List.pairwise_map.2 (lineMatches_ordered causeBoundary_single.consumes)
  · intro span among
    obtain ⟨found, member, rfl⟩ := List.mem_map.1 among
    have found_here := lineMatches_sound causeBoundary_single.consumes member
    exact ⟨Nat.zero_le _, found_here.nonempty, found_here.inside⟩

theorem causeBlocksOf_eq {text : Text} (some_text : text ≠ []) :
    causeBlocksOf text (lineMatches causeBoundary text) = Span.between 0 (boundaries text) text.length := by
  unfold causeBlocksOf boundaries
  rw [if_neg some_text, ← Span.zipWith_between, List.map_map, List.map_map]
  rfl

/-- The blocks and the boundaries between them cover the text in order. -/
theorem causeBlocks_tile (text : Text) : Tiles Span.start Span.stop 0 text.length
    (Span.inTurn (causeBlocksOf text (lineMatches causeBoundary text)) (boundaries text)) := by
  by_cases nothing : text = []
  · subst nothing
    exact rfl
  · rw [causeBlocksOf_eq nothing]
    exact Span.between_tiles (separates_boundaries text)

/-! ## Accepted locators -/

section Accepted

variable {casefold : Text → Text} {text : Text}

variable {item : AcceptedPlatformLocation}

theorem acceptLocation_span {found : Found Locator}
    (taken : acceptLocation casefold found = some item) : item.span = found.span := by
  obtain ⟨-, same⟩ := Option.ite_none_left_eq_some.1 taken
  cases same
  rfl

/-- An accepted locator is a match of the pattern. -/
theorem accepted_matches (among : item ∈ acceptedPlatformLocations casefold text) :
    ∃ locator, Matches locationPattern text ⟨item.span, locator⟩ := by
  obtain ⟨found, member, taken⟩ := List.mem_filterMap.1 among
  refine ⟨found.value, ?_⟩
  rw [acceptLocation_span taken]
  exact lineMatches_sound locationPattern_takes.consumes member

theorem accepted_ordered : (acceptedPlatformLocations casefold text).Pairwise
    fun first second => first.span.stop ≤ second.span.start := by
  refine List.pairwise_filterMap.2 ((lineMatches_ordered locationPattern_takes.consumes).imp ?_)
  intro first second apart one taken other second_taken
  rw [acceptLocation_span taken, acceptLocation_span second_taken]
  exact apart

theorem accepted_total {first second : AcceptedPlatformLocation}
    (one : first ∈ acceptedPlatformLocations casefold text)
    (other : second ∈ acceptedPlatformLocations casefold text) :
    first.span.stop ≤ second.span.start ∨ second.span.stop ≤ first.span.start ∨ first = second := by
  obtain ⟨low, low_lt, rfl⟩ := List.getElem_of_mem one
  obtain ⟨high, high_lt, rfl⟩ := List.getElem_of_mem other
  have ordered := List.pairwise_iff_getElem.1 (@accepted_ordered casefold text)
  rcases Nat.lt_trichotomy low high with less | rfl | more
  · exact .inl (ordered low high low_lt high_lt less)
  · exact .inr (.inr rfl)
  · exact .inr (.inl (ordered high low high_lt low_lt more))

theorem accepted_nonempty (among : item ∈ acceptedPlatformLocations casefold text) :
    item.span.start < item.span.stop ∧ item.span.stop ≤ text.length := by
  obtain ⟨locator, matched⟩ := accepted_matches among
  exact ⟨matched.nonempty, matched.inside⟩

/-- A match of one line with another ink is apart from every accepted locator. -/
theorem accepted_apart {β : Type} {pattern : Pattern β} (foreign : Foreign pattern)
    (among : item ∈ acceptedPlatformLocations casefold text)
    {found : Found β} (member : found ∈ lineMatches pattern text) : found.span.Apart item.span := by
  obtain ⟨locator, matched⟩ := accepted_matches among
  exact foreign.apart matched (lineMatches_sound foreign.single.consumes member)

theorem accepted_apart_boundary
    (among : item ∈ acceptedPlatformLocations casefold text) {span : Span}
    (member : span ∈ boundaries text) : span.Apart item.span := by
  obtain ⟨found, inside, rfl⟩ := List.mem_map.1 member
  exact accepted_apart causeBoundary_foreign among inside

end Accepted

/-! ## Cause blocks -/

section Causes

variable {casefold : Text → Text} {text : Text} {block : Span}

theorem mem_causeBlocks (among : block ∈ causeBlocksOf text (lineMatches causeBoundary text)) :
    (block.start = 0 ∨ ∃ span ∈ boundaries text, span.stop = block.start) ∧
      (block.stop = text.length ∨ ∃ span ∈ boundaries text, span.start = block.stop) ∧
      block.start ≤ block.stop ∧ block.stop ≤ text.length := by
  by_cases nothing : text = []
  · subst nothing
    exact absurd among List.not_mem_nil
  · rw [causeBlocksOf_eq nothing] at among
    obtain ⟨begins, ends, -, forward, inside⟩ := Span.mem_between (separates_boundaries text) among
    exact ⟨begins, ends, forward, inside⟩

/-- A locator stands in front of a block, in it, or behind it. -/
theorem accepted_block {item : AcceptedPlatformLocation}
    (among : item ∈ acceptedPlatformLocations casefold text)
    (member : block ∈ causeBlocksOf text (lineMatches causeBoundary text)) :
    item.span.stop ≤ block.start ∨ item.span.Within block ∨ block.stop ≤ item.span.start := by
  obtain ⟨some_place, inside⟩ := accepted_nonempty among
  obtain ⟨begins, ends, forward, within⟩ := mem_causeBlocks member
  have low : item.span.stop ≤ block.start ∨ block.start ≤ item.span.start := by
    rcases begins with zero | ⟨span, boundary, same⟩
    · exact .inr (by omega)
    · obtain ⟨-, boundary_text, -⟩ := (separates_boundaries text).2.2 span boundary
      rcases accepted_apart_boundary among boundary with before | behind
      · exact .inr (by omega)
      · exact .inl (by omega)
  have high : item.span.stop ≤ block.stop ∨ block.stop ≤ item.span.start := by
    rcases ends with all | ⟨span, boundary, same⟩
    · exact .inl (by omega)
    · obtain ⟨-, boundary_text, -⟩ := (separates_boundaries text).2.2 span boundary
      rcases accepted_apart_boundary among boundary with before | behind
      · exact .inr (by omega)
      · exact .inl (by omega)
  rcases low with before | low
  · exact .inl before
  · exact .inr (high.imp (fun high => ⟨low, high⟩) id)

/-- Every locator stands in a block. -/
theorem accepted_in_block {item : AcceptedPlatformLocation}
    (among : item ∈ acceptedPlatformLocations casefold text) :
    ∃ block ∈ causeBlocksOf text (lineMatches causeBoundary text), holdsStart block item.span.start := by
  obtain ⟨some_place, inside⟩ := accepted_nonempty among
  have some_text : text ≠ [] := by
    rintro rfl
    rw [List.length_nil] at inside
    omega
  rw [causeBlocksOf_eq some_text]
  have free : ∀ span ∈ boundaries text, ¬span.Holds item.span.start := by
    intro span boundary holds
    obtain ⟨low, high⟩ := holds
    rcases accepted_apart_boundary among boundary with before | behind
    · omega
    · omega
  obtain ⟨block, member, holds⟩ :=
    Span.exists_between (Nat.zero_le _) (Nat.lt_of_lt_of_le some_place inside) free
  exact ⟨block, member, decide_eq_true holds⟩

end Causes

/-! ## Block starts -/

section Starts

variable {casefold : Text → Text} {text : Text}

def blockStartsOf (text : Text) : List Nat := diagnosticBlockStarts text (lineMatches categoryBlock text)

theorem blockStarts_sorted (text : Text) : (blockStartsOf text).Pairwise (· ≤ ·) :=
  sortedBy_pairwise id _

theorem mem_blockStarts {place : Nat} : place ∈ blockStartsOf text ↔
    (∃ found ∈ lineMatches blockStart text, found.span.start = place) ∨
      ∃ found ∈ lineMatches categoryBlock text, found.span.start = place := by
  rw [blockStartsOf, diagnosticBlockStarts, mem_sortedBy, List.mem_append, List.mem_map, List.mem_map]

/-- Every locator starts a block. -/
theorem accepted_starts {item : AcceptedPlatformLocation}
    (among : item ∈ acceptedPlatformLocations casefold text) : item.span.start ∈ blockStartsOf text := by
  obtain ⟨locator, matched⟩ := accepted_matches among
  obtain ⟨read, brace, -⟩ := locationPattern_brace matched.taken
  have starts : (blockStart (text.drop item.span.start)).isSome := by
    rw [brace]
    rfl
  obtain ⟨found, member, low, high⟩ := lineMatches_complete blockStart_consumes matched.lineStart starts
  have found_here := lineMatches_sound blockStart_consumes member
  have width := congrArg List.length (blockStart_eq_some.1 found_here.taken)
  have inside := found_here.inside
  have some_place := found_here.nonempty
  rw [List.length_cons, List.length_drop, List.length_drop] at width
  dsimp only at low high
  exact mem_blockStarts.2 (.inl ⟨found, member, by omega⟩)

/-- No block starts inside a locator. -/
theorem accepted_start_apart {item : AcceptedPlatformLocation}
    (among : item ∈ acceptedPlatformLocations casefold text) {place : Nat}
    (starts : place ∈ blockStartsOf text) (behind : item.span.start < place) :
    item.span.stop ≤ place := by
  rcases mem_blockStarts.1 starts with ⟨found, member, rfl⟩ | ⟨found, member, rfl⟩
  · obtain ⟨locator, matched⟩ := accepted_matches among
    have found_here := lineMatches_sound blockStart_consumes member
    by_contra inside
    obtain ⟨after, -, goes, same⟩ := matched.line_inside locationPattern_takes found_here.lineStart
      behind (Nat.not_le.1 inside)
    obtain ⟨ink, first, coordinate⟩ := goesOn_append goes (text.drop item.span.stop)
    rw [← same, blockStart_eq_some.1 found_here.taken] at first
    obtain rfl : '{' = ink := Option.some.inj first
    exact absurd coordinate (by decide)
  · have found_here := lineMatches_sound categoryBlock_single.consumes member
    have some_text := found_here.nonempty
    rcases accepted_apart categoryBlock_foreign among member with before | after
    · omega
    · exact after

/-- The first start behind a place is the least. -/
theorem find_start {starts : List Nat} (sorted : starts.Pairwise (· ≤ ·)) {place next : Nat}
    (found : starts.find? (place < ·) = some next) : ∀ other ∈ starts, place < other → next ≤ other := by
  obtain ⟨_, before, rest, rfl, none_before⟩ := List.find?_eq_some_iff_append.1 found
  intro other among behind
  rcases List.mem_append.1 among with early | late
  · have never := none_before other early
    rw [decide_eq_true behind] at never
    exact absurd never (by decide)
  · rcases List.mem_cons.1 late with rfl | later
    · exact Nat.le_refl _
    · exact (List.pairwise_cons.1 (List.pairwise_append.1 sorted).2.1).1 other later

end Starts

end OnecRuntime.Diagnostics
