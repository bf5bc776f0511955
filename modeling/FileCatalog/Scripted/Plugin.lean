import FileCatalog.Backend
import FileCatalog.Registry
import FileCatalog.Scripted.Rendering

/-!
# Scripted plugins

A scripted plugin and the backends that it opens answer every request from a table written down in
advance, and keep no state. A backend remembers its plugin, its filesystem and its root.
-/

namespace FileCatalog.Scripted

/-- What a lookup of one path answers. -/
structure PathEntry where
  path : String
  fault : Option Fault
  info : EntryInfo

/-- Which entries a backend can be branched at. -/
inductive Branching where
  | anywhere
  /-- Only at entries that the table lists. -/
  | listed
  | refused (fault : Fault)

structure Plugin where
  name : String
  version : UInt32
  /-- Why no filesystem can be opened, if none can. -/
  fault : Option Fault
  /-- The filesystems that exist; without a list, all of them do. -/
  filesystems : Option (List String)
  root : EntryId
  backendName : String
  entries : List PathEntry
  /-- Whether lookups answer with all they know, asked for or not. -/
  ignoreMask : Bool
  branching : Branching

instance : FileCatalog.Plugin Plugin where
  name := Plugin.name
  version := Plugin.version

structure Backend where
  plugin : Plugin
  filesystem : String
  root : EntryId

namespace Plugin

def instantiate (p : Plugin) (filesystem : String) : Except Fault Backend :=
  match p.fault with
  | some f => .error f
  | none =>
    if p.filesystems.all fun known => known.contains filesystem then .ok ⟨p, filesystem, p.root⟩
    else .error (.notFound filesystem)

end Plugin

namespace Backend

/-- The fields of an entry that a lookup with the given mask answers with. -/
def project (b : Backend) (mask : FieldMask) (info : EntryInfo) : EntryInfo :=
  let shown (m : FieldMask) : Bool := b.plugin.ignoreMask || mask.contains m
  { id := if shown .id then info.id else none
    parentId := if shown .parentId then info.parentId else none
    name := if shown .name then info.name else none }

/-- What the root answers when the table does not list it. -/
def rootInfo (b : Backend) : EntryInfo := ⟨some b.root, none, some b.filesystem⟩

def lookup (b : Backend) (path : String) (mask : FieldMask) : Except Fault EntryInfo :=
  match b.plugin.entries.find? fun e => e.path = path with
  | some e =>
    match e.fault with
    | some f => .error f
    | none => .ok (b.project mask e.info)
  | none =>
    if path = "/" then .ok (b.project mask b.rootInfo) else .error (.notFound path)

def branch (b : Backend) (id : EntryId) : Except Fault Backend :=
  match b.plugin.branching with
  | .anywhere => .ok { b with root := id }
  | .listed =>
    if b.plugin.entries.any fun e => e.info.id = some id then .ok { b with root := id }
    else .error (.notFound (id.text hex))
  | .refused f => .error f

end Backend

/-- The scripted parties have no state to keep. -/
def storage : Storage Plugin Backend Unit where
  instantiate p filesystem := liftM (p.instantiate filesystem)
  name b := b.plugin.backendName
  lookup b path mask := liftM (b.lookup path mask)
  branch b id := liftM (b.branch id)

/-- An event in words; loading a plugin asks nothing of it and is passed over. -/
def eventText? : Event Plugin Backend → Option String
  | .load _ => none
  | .instantiate plugin filesystem => some ("new " ++ plugin.name ++ " fs=" ++ filesystem)
  | .opened h =>
    some ("open h" ++ toString h.number ++ " fs=" ++ h.backend.filesystem ++ " root=" ++
      h.backend.root.text hex)
  | .lookup number path mask =>
    some ("lookup h" ++ toString number ++ " path=" ++ path ++ " mask=" ++ toString mask.bits)
  | .branch number id => some ("branch h" ++ toString number ++ " id=" ++ id.text hex)
  | .dropped number => some ("drop h" ++ toString number)

end FileCatalog.Scripted
