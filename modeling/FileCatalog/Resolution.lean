import FileCatalog.Backend
import FileCatalog.Locator

/-!
# Resolution

A locator is turned into a live handle in up to five steps: it is parsed, the plugin that its scheme
names is loaded, the filesystem is opened, the path is looked up, and the handle is branched at the
entry found. An identifier in the locator takes the place of the lookup, and a locator with neither
path nor identifier stands for the whole filesystem.

The handle on the whole filesystem is kept only in that last case. It is dropped as soon as the
branch has been tried, whether the branch succeeded or not, and also when the lookup fails, so that
a failed resolution leaves no handle behind.
-/

namespace FileCatalog

/-- A part of a resolution; a failure keeps the world that it has reached. -/
abbrev Resolution (P B σ α : Type) := ExceptT ResolveFault (StateM (World P B σ)) α

namespace Resolution

variable {P B σ α : Type}

/-- Some work as a step of a resolution: its fault is reported with the step. -/
def step (s : Step) (work : Attempt (World P B σ) α) : Resolution P B σ α := fun w =>
  let (outcome, w) := work w
  (outcome.mapError fun fault => ⟨s, fault⟩, w)

variable (loader : Loader P σ) (storage : Storage P B σ)

/-- The identifier of the entry at a path that is still written with escapes. -/
def findPath (h : Handle B) (path : String) : Attempt (World P B σ) EntryId := do
  let decoded ← Locator.decodePath path
  World.entryId storage h decoded

/-- Branch a handle, which is given up for the branch. -/
def branchOff (h : Handle B) (id : EntryId) : Resolution P B σ (Handle B) :=
  step .branch (World.droppingAfter h.number (World.branch storage h id))

/-- Narrow a handle on a whole filesystem down to what a locator addresses. -/
def narrow (h : Handle B) (l : Locator) : Resolution P B σ (Handle B) :=
  match l.path with
  | some path => do
    let id ← step .resolve (World.droppingOnFailure h.number (findPath storage h path))
    branchOff storage h id
  | none => if l.id.isEmpty then pure h else branchOff storage h l.id

/-- Open what a parsed locator addresses. -/
def openLocator (l : Locator) : Resolution P B σ (Handle B) := do
  let plugin ← step .load (World.load loader l.backend)
  let h ← step .instantiate (World.instantiate storage plugin l.filesystem)
  narrow storage h l

/-- Open what a text addresses. -/
def openText (s : String) : Resolution P B σ (Handle B) := do
  let l ← step .parse (liftM (Locator.parse s))
  openLocator loader storage l

end Resolution

end FileCatalog
