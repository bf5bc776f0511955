import FileCatalog.Attempt
import FileCatalog.Entry

/-!
# Backends and their handles

Loaders, plugins and backends belong to others. All that is known of them is which requests they
take: they may answer or fail as they please, and keep a common state of any kind from one request
to the next. A backend is reached through a handle, which is opened when a plugin or another backend
yields it and lives until it is dropped.

The world holds the state of these parties, the handles that are live, and the log of everything
that has been asked of them. Handles are numbered in the order in which they were opened.
-/

namespace FileCatalog

variable {P B σ : Type}

/-- A party that finds plugins by name. -/
abbrev Loader (P σ : Type) := String → Attempt σ P

/-- The requests that plugins and backends take. -/
structure Storage (P B σ : Type) where
  /-- Open the filesystem of the given name. -/
  instantiate : P → String → Attempt σ B
  name : B → String
  /-- Tell about the entry at a path below the backend's root. -/
  lookup : B → String → FieldMask → Attempt σ EntryInfo
  /-- Yield a backend whose root is the given entry. -/
  branch : B → EntryId → Attempt σ B

structure Handle (B : Type) where
  number : Nat
  backend : B
  deriving DecidableEq, Repr

/-- What the log notes. -/
inductive Event (P B : Type) where
  | load (name : String)
  | instantiate (plugin : P) (filesystem : String)
  | opened (handle : Handle B)
  | lookup (number : Nat) (path : String) (mask : FieldMask)
  | branch (number : Nat) (id : EntryId)
  | dropped (number : Nat)
  deriving DecidableEq, Repr

structure World (P B σ : Type) where
  parties : σ
  /-- How many handles have been opened so far. -/
  opened : Nat
  /-- The handles that are live, oldest first. -/
  live : List (Handle B)
  /-- All events, oldest first. -/
  log : List (Event P B)

namespace World

/-- A world in which nothing has happened. -/
def start (parties : σ) : World P B σ := ⟨parties, 0, [], []⟩

def note (w : World P B σ) (e : Event P B) : World P B σ := { w with log := w.log ++ [e] }

/-- Give the next number to a backend. -/
def openHandle (w : World P B σ) (backend : B) : Handle B × World P B σ :=
  let handle : Handle B := ⟨w.opened, backend⟩
  (handle, { w.note (.opened handle) with opened := w.opened + 1, live := w.live ++ [handle] })

def drop (w : World P B σ) (number : Nat) : World P B σ :=
  { w.note (.dropped number) with live := w.live.filter fun h => h.number ≠ number }

def isLive (w : World P B σ) (number : Nat) : Bool := w.live.any fun h => h.number = number

/-- Note a request and pass it on to the parties. -/
def ask {α : Type} (e : Event P B) (request : Attempt σ α) : Attempt (World P B σ) α := fun w =>
  let (outcome, parties) := request w.parties
  (outcome, { w.note e with parties })

/-- Open a handle on the backend that a request yields. -/
def opening (request : Attempt (World P B σ) B) : Attempt (World P B σ) (Handle B) := do
  let backend ← request
  modifyGet fun w => w.openHandle backend

/-- Drop a handle once some work is done, whether it failed or not. -/
def droppingAfter {α : Type} (number : Nat) (work : Attempt (World P B σ) α) :
    Attempt (World P B σ) α := fun w =>
  let (outcome, w) := work w
  (outcome, w.drop number)

/-- Drop a handle if some work fails. -/
def droppingOnFailure {α : Type} (number : Nat) (work : Attempt (World P B σ) α) :
    Attempt (World P B σ) α := fun w =>
  match work w with
  | (.ok a, w) => (.ok a, w)
  | (.error f, w) => (.error f, w.drop number)

def load (loader : Loader P σ) (name : String) : Attempt (World P B σ) P :=
  ask (.load name) (loader name)

variable (storage : Storage P B σ)

def instantiate (plugin : P) (filesystem : String) : Attempt (World P B σ) (Handle B) :=
  opening (ask (.instantiate plugin filesystem) (storage.instantiate plugin filesystem))

def lookup (h : Handle B) (path : String) (mask : FieldMask) :
    Attempt (World P B σ) EntryInfo :=
  ask (.lookup h.number path mask) (storage.lookup h.backend path mask)

/-- The branch has a handle of its own, which outlives the handle it was made from. -/
def branch (h : Handle B) (id : EntryId) : Attempt (World P B σ) (Handle B) :=
  opening (ask (.branch h.number id) (storage.branch h.backend id))

/-- Look up nothing but the identifier of the entry at a path, which has to be known. -/
def entryId (h : Handle B) (path : String) : Attempt (World P B σ) EntryId := do
  let info ← lookup storage h path .id
  match info.id with
  | some id => return id
  | none => throw (.noData "fsentry_from_path")

end World

end FileCatalog
