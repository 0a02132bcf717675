import OnecRuntime.Library.Dictionary

/-!
# Coalesced file changes

The file changes of a project between two reports to the language server: for each path the
last change, in which a deletion and a creation make a change and a change of a created file
stays its creation. `pathname` is the path of a parsed URL.
-/

namespace OnecRuntime.Files

open OnecRuntime.Library

inductive ChangeType where
  | created
  | changed
  | deleted
deriving DecidableEq

structure FileEvent where
  uri : String
  type : ChangeType
deriving DecidableEq

/-- Whether a path ends with one of some lower-case endings, without regard to the case of its
ASCII letters. -/
def endsWithAny (endings : List String) (path : String) : Bool :=
  endings.any fun ending => ending.toList.isSuffixOf (path.toList.map Char.toLower)

/-- `/\.(xml|mdo)$/i`. -/
def structuralPath : String → Bool := endsWithAny [".xml", ".mdo"]

/-- The canonical module names of the metadata. -/
def canonicalPath : String → Bool :=
  endsWithAny ["/module.bsl", "/objectmodule.bsl", "/managermodule.bsl", "/recordsetmodule.bsl",
    "/formmodule.bsl", "/commandmodule.bsl"]

def maximalPaths : Nat := 4096

structure FileChangeCoalescer where
  events : Dictionary String ChangeType
  restart : Bool

structure Flushed where
  events : List FileEvent
  restart : Bool
deriving DecidableEq

namespace FileChangeCoalescer

variable (pathname : String → String)

def fresh : FileChangeCoalescer := ⟨.empty, false⟩

/-- The change of a path that was seen before, or of another. -/
def merged (previous : Option ChangeType) (type : ChangeType) : ChangeType :=
  if previous = some .deleted ∧ type = .created then .changed
  else if previous = some .created ∧ type = .changed then .created
  else type

def push (coalescer : FileChangeCoalescer) (event : FileEvent) : FileChangeCoalescer :=
  let restart := coalescer.restart ||
    decide (event.type ≠ .changed) && structuralPath (pathname event.uri)
  let previous := coalescer.events.get? event.uri
  if previous = none ∧ maximalPaths ≤ coalescer.events.entries.length then
    ⟨coalescer.events, true⟩
  else ⟨coalescer.events.set event.uri (merged previous event.type), restart⟩

/-- The report, and the coalescer it leaves. -/
def flush (coalescer : FileChangeCoalescer) : Flushed × FileChangeCoalescer :=
  let events := coalescer.events.entries.map fun entry => ⟨entry.1, entry.2⟩
  let canonicalChange := events.any fun event =>
    decide (event.type ≠ .changed) && canonicalPath (pathname event.uri)
  (⟨events, coalescer.restart || canonicalChange⟩, fresh)

/-- The report of the events of one batch. -/
def report (events : List FileEvent) : Flushed :=
  ((events.foldl (push pathname) fresh).flush pathname).1

end FileChangeCoalescer

end OnecRuntime.Files
