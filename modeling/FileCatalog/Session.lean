import FileCatalog.Registry
import FileCatalog.Resolution

/-!
# Sessions

A session has a registry of plugins, which serves as its loader, and numbered slots for the handles
that its client holds. Every handle that a command yields gets the next slot. A slot is never used
again: once its handle is dropped, commands on it find nothing.
-/

namespace FileCatalog

structure Session (P B σ : Type) where
  registry : Registry P
  world : World P B σ
  /-- The handles that were given out, in the order of their slots. -/
  slots : List (Handle B)

namespace Session

variable {P B σ : Type}

inductive Command (P : Type) where
  | register (plugin : P)
  | names
  | text
  | load (name : String)
  | openText (locator : String)
  | openParts (parts : Locator.Parts)
  | name (slot : Nat)
  | lookup (slot : Nat) (path : String) (mask : FieldMask)
  | entryId (slot : Nat) (path : String)
  | branch (slot : Nat) (id : EntryId)
  | drop (slot : Nat)

inductive Answer (P : Type) where
  /-- The plugin that a registration has replaced. -/
  | replaced (plugin : Option P)
  | names (names : List String)
  | text (s : String)
  | plugin (plugin : P)
  /-- The slot of a new handle, and the name of its backend. -/
  | opened (slot : Nat) (name : String)
  | entry (info : EntryInfo)
  | id (id : EntryId)
  | done
  | failed (fault : Fault)
  | unresolved (fault : ResolveFault)
  | noSuchSlot

def start (parties : σ) : Session P B σ := ⟨.empty, .start parties, []⟩

variable (storage : Storage P B σ)

/-- The handle in a slot, as long as it is live. -/
def handleAt? (s : Session P B σ) (slot : Nat) : Option (Handle B) :=
  s.slots[slot]?.filter fun h => s.world.isLive h.number

/-- Give the next slot to a handle. -/
def keep (s : Session P B σ) (h : Handle B) : Answer P × Session P B σ :=
  (.opened s.slots.length (storage.name h.backend), { s with slots := s.slots ++ [h] })

/-- Keep the handle that a resolution yields. -/
def keepResolved (s : Session P B σ) (r : Resolution P B σ (Handle B)) :
    Answer P × Session P B σ :=
  match r s.world with
  | (.ok h, world) => keep storage { s with world } h
  | (.error f, world) => (.unresolved f, { s with world })

/-- Do some work on the handle in a slot and answer with what it yields. -/
def onSlot {α : Type} (s : Session P B σ) (slot : Nat)
    (work : Handle B → Attempt (World P B σ) α)
    (answer : Session P B σ → α → Answer P × Session P B σ) : Answer P × Session P B σ :=
  match s.handleAt? slot with
  | none => (.noSuchSlot, s)
  | some h =>
    match work h s.world with
    | (.ok a, world) => answer { s with world } a
    | (.error f, world) => (.failed f, { s with world })

variable [Plugin P]

/-- The registry as a loader. -/
def loader (s : Session P B σ) : Loader P σ := fun name => liftM (s.registry.load name)

def perform (s : Session P B σ) : Command P → Answer P × Session P B σ
  | .register plugin =>
    let (replaced, registry) := s.registry.register plugin
    (.replaced replaced, { s with registry })
  | .names => (.names s.registry.names, s)
  | .text => (.text s.registry.text, s)
  | .load name =>
    match s.registry.load name with
    | .ok plugin => (.plugin plugin, s)
    | .error f => (.failed f, s)
  | .openText locator => keepResolved storage s (Resolution.openText s.loader storage locator)
  | .openParts parts =>
    match Locator.ofParts parts with
    | .ok l => keepResolved storage s (Resolution.openLocator s.loader storage l)
    | .error f => (.failed f, s)
  | .name slot => onSlot s slot pure fun s h => (.text (storage.name h.backend), s)
  | .lookup slot path mask =>
    onSlot s slot (fun h => World.lookup storage h path mask) fun s info => (.entry info, s)
  | .entryId slot path =>
    onSlot s slot (fun h => World.entryId storage h path) fun s id => (.id id, s)
  | .branch slot id =>
    onSlot s slot (fun h => World.branch storage h id) (keep storage)
  | .drop slot =>
    onSlot s slot (fun h => modify fun w => w.drop h.number) fun s _ => (.done, s)

/-- What a client sees of one command. -/
structure Report (P B : Type) where
  answer : Answer P
  /-- The events that the command has caused. -/
  events : List (Event P B)
  /-- How many handles are live after it. -/
  live : Nat

def report (s : Session P B σ) (c : Command P) : Report P B × Session P B σ :=
  let (answer, after) := s.perform storage c
  (⟨answer, after.world.log.drop s.world.log.length, after.world.live.length⟩, after)

/-- Perform commands one after the other. -/
def run (s : Session P B σ) : List (Command P) → List (Report P B) × Session P B σ
  | [] => ([], s)
  | c :: cs =>
    let (first, s) := s.report storage c
    let (rest, s) := s.run cs
    (first :: rest, s)

end Session

end FileCatalog
