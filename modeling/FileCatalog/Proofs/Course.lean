import FileCatalog.Resolution

/-!
# The course of a resolution

What a resolution does is told by rules, one for each way in which it can go: the answers of the
parties decide which rule applies, and the rule gives the outcome and all events in their order.
Everything that is proved about resolutions is read off these rules, so that none of the proofs has
to open the definitions again. Beside the events, only the books of the world have to be known, and
`World.Advances` says that they are kept by replaying the events.
-/

namespace FileCatalog

variable {P B σ α : Type}

namespace Event

@[simp] def opened? : Event P B → Option (Handle B)
  | .opened h => some h
  | _ => none

@[simp] def dropped? : Event P B → Option Nat
  | .dropped n => some n
  | _ => none

/-- What an event makes of the list of live handles. -/
def track (live : List (Handle B)) : Event P B → List (Handle B)
  | .opened h => live ++ [h]
  | .dropped n => live.filter fun h => h.number ≠ n
  | _ => live

end Event

def openings (events : List (Event P B)) : List (Handle B) := events.filterMap Event.opened?

/-- The numbers of the handles dropped in the course of some events, as often as they are. -/
def drops (events : List (Event P B)) : List Nat := events.filterMap Event.dropped?

@[simp] theorem openings_nil : openings ([] : List (Event P B)) = [] := rfl

@[simp] theorem drops_nil : drops ([] : List (Event P B)) = [] := rfl

@[simp] theorem openings_cons (e : Event P B) (es : List (Event P B)) :
    openings (e :: es) = e.opened?.toList ++ openings es := by
  cases e <;> rfl

@[simp] theorem drops_cons (e : Event P B) (es : List (Event P B)) :
    drops (e :: es) = e.dropped?.toList ++ drops es := by
  cases e <;> rfl

@[simp] theorem openings_append (es fs : List (Event P B)) :
    openings (es ++ fs) = openings es ++ openings fs := by
  simp [openings]

@[simp] theorem drops_append (es fs : List (Event P B)) :
    drops (es ++ fs) = drops es ++ drops fs := by
  simp [drops]

namespace World

/-- The second world is the first one after the given events, by all its books. -/
structure Advances (w : World P B σ) (events : List (Event P B)) (w' : World P B σ) : Prop where
  log : w'.log = w.log ++ events
  opened : w'.opened = w.opened + (openings events).length
  live : w'.live = events.foldl Event.track w.live

theorem Advances.refl (w : World P B σ) : w.Advances [] w :=
  ⟨by simp, by simp, rfl⟩

theorem Advances.trans {w w' w'' : World P B σ} {es fs : List (Event P B)}
    (h : w.Advances es w') (h' : w'.Advances fs w'') : w.Advances (es ++ fs) w'' := by
  refine ⟨?_, ?_, ?_⟩
  · rw [h'.log, h.log, List.append_assoc]
  · rw [h'.opened, h.opened, openings_append, List.length_append, Nat.add_assoc]
  · rw [h'.live, h.live, List.foldl_append]

def asked (w : World P B σ) (e : Event P B) (parties : σ) : World P B σ :=
  { w.note e with parties }

@[simp] theorem parties_asked (w : World P B σ) (e : Event P B) (p : σ) :
    (w.asked e p).parties = p := rfl

@[simp] theorem opened_asked (w : World P B σ) (e : Event P B) (p : σ) :
    (w.asked e p).opened = w.opened := rfl

@[simp] theorem fst_openHandle (w : World P B σ) (b : B) :
    (w.openHandle b).1 = ⟨w.opened, b⟩ := rfl

theorem ask_apply (e : Event P B) (request : Attempt σ α) (w : World P B σ) :
    ask e request w = ((request w.parties).1, w.asked e (request w.parties).2) := rfl

theorem advances_asked (w : World P B σ) (parties : σ) {e : Event P B}
    (ho : e.opened? = none) (hd : e.dropped? = none) : w.Advances [e] (w.asked e parties) := by
  cases e with
  | opened h => simp at ho
  | dropped n => simp at hd
  | _ => exact ⟨rfl, rfl, rfl⟩

theorem advances_openHandle (w : World P B σ) (b : B) :
    w.Advances [.opened ⟨w.opened, b⟩] (w.openHandle b).2 :=
  ⟨rfl, rfl, rfl⟩

theorem advances_drop (w : World P B σ) (n : Nat) : w.Advances [.dropped n] (w.drop n) :=
  ⟨rfl, rfl, rfl⟩

end World

namespace Resolution

variable (loader : Loader P σ) (storage : Storage P B σ)

/-- Branching a handle off: the handle is dropped after the branch has answered. -/
inductive Branching (h : Handle B) (id : EntryId) (w : World P B σ) :
    Except ResolveFault (Handle B) → List (Event P B) → Prop
  | refused {f p} : storage.branch h.backend id w.parties = (.error f, p) →
      Branching h id w (.error ⟨.branch, f⟩) [.branch h.number id, .dropped h.number]
  | branched {b p} : storage.branch h.backend id w.parties = (.ok b, p) →
      Branching h id w (.ok ⟨w.opened, b⟩)
        [.branch h.number id, .opened ⟨w.opened, b⟩, .dropped h.number]

/-- Narrowing a handle on a whole filesystem. A path goes before an identifier. -/
inductive Narrowing (h : Handle B) (l : Locator) (w : World P B σ) :
    Except ResolveFault (Handle B) → List (Event P B) → Prop
  | whole : l.path = none → l.id = .rootParent → Narrowing h l w (.ok h) []
  | byId {outcome es} : l.path = none → l.id ≠ .rootParent →
      Branching storage h l.id w outcome es → Narrowing h l w outcome es
  | undecodable {path f} : l.path = some path → Locator.decodePath path = .error f →
      Narrowing h l w (.error ⟨.resolve, f⟩) [.dropped h.number]
  | notFound {path name f p} : l.path = some path → Locator.decodePath path = .ok name →
      storage.lookup h.backend name .id w.parties = (.error f, p) →
      Narrowing h l w (.error ⟨.resolve, f⟩) [.lookup h.number name .id, .dropped h.number]
  | unidentified {path name info p} :
      l.path = some path → Locator.decodePath path = .ok name →
      storage.lookup h.backend name .id w.parties = (.ok info, p) → info.id = none →
      Narrowing h l w (.error ⟨.resolve, .noData "fsentry_from_path"⟩)
        [.lookup h.number name .id, .dropped h.number]
  | byPath {path name info id p outcome es} :
      l.path = some path → Locator.decodePath path = .ok name →
      storage.lookup h.backend name .id w.parties = (.ok info, p) → info.id = some id →
      Branching storage h id (w.asked (.lookup h.number name .id) p) outcome es →
      Narrowing h l w outcome (.lookup h.number name .id :: es)

inductive Opening (l : Locator) (w : World P B σ) :
    Except ResolveFault (Handle B) → List (Event P B) → Prop
  | unloaded {f p} : loader l.backend w.parties = (.error f, p) →
      Opening l w (.error ⟨.load, f⟩) [.load l.backend]
  | unopened {plugin f p p'} : loader l.backend w.parties = (.ok plugin, p) →
      storage.instantiate plugin l.filesystem p = (.error f, p') →
      Opening l w (.error ⟨.instantiate, f⟩)
        [.load l.backend, .instantiate plugin l.filesystem]
  | opened {plugin b p p' w' outcome es} : loader l.backend w.parties = (.ok plugin, p) →
      storage.instantiate plugin l.filesystem p = (.ok b, p') →
      w' = (((w.asked (.load l.backend) p).asked
        (.instantiate plugin l.filesystem) p').openHandle b).2 →
      Narrowing storage ⟨w.opened, b⟩ l w' outcome es →
      Opening l w outcome
        ([.load l.backend, .instantiate plugin l.filesystem, .opened ⟨w.opened, b⟩] ++ es)

inductive OpeningText (s : String) (w : World P B σ) :
    Except ResolveFault (Handle B) → List (Event P B) → Prop
  | unparsed {f} : Locator.parse s = .error f → OpeningText s w (.error ⟨.parse, f⟩) []
  | parsed {l outcome es} : Locator.parse s = .ok l → Opening loader storage l w outcome es →
      OpeningText s w outcome es

theorem step_apply (s : Step) (work : Attempt (World P B σ) α) (w : World P B σ) :
    step s work w = ((work w).1.mapError fun fault => ⟨s, fault⟩, (work w).2) := rfl

section Equations

variable {loader storage} {h : Handle B} {l : Locator} {w w' : World P B σ} {f : Fault} {p : σ}

theorem branchOff_of_error {id : EntryId}
    (hb : storage.branch h.backend id w.parties = (.error f, p)) :
    branchOff storage h id w =
      (.error ⟨.branch, f⟩, (w.asked (.branch h.number id) p).drop h.number) := by
  simp [branchOff, step_apply, World.droppingAfter, World.branch, World.opening,
    World.ask_apply, hb]

theorem branchOff_of_ok {id : EntryId} {b : B}
    (hb : storage.branch h.backend id w.parties = (.ok b, p)) :
    branchOff storage h id w = (.ok ⟨w.opened, b⟩,
      ((w.asked (.branch h.number id) p).openHandle b).2.drop h.number) := by
  simp [branchOff, step_apply, World.droppingAfter, World.branch, World.opening,
    World.ask_apply, hb]

theorem findPath_of_undecodable {path : String} (hd : Locator.decodePath path = .error f) :
    findPath storage h path w = (.error f, w) := by
  simp [findPath, hd]

theorem findPath_of_decoded {path name : String} {answer : Except Fault EntryInfo}
    (hd : Locator.decodePath path = .ok name)
    (ha : storage.lookup h.backend name .id w.parties = (answer, p)) :
    findPath storage h path w =
      (answer.bind fun info => info.id.elim (.error (.noData "fsentry_from_path")) .ok,
        w.asked (.lookup h.number name .id) p) := by
  rcases answer with f | info
  · simp [findPath, hd, World.entryId, World.lookup, World.ask_apply, ha, Except.bind]
  · cases hi : info.id <;>
      simp [findPath, hd, World.entryId, World.lookup, World.ask_apply, ha, hi, Except.bind]

theorem narrow_of_no_path (hp : l.path = none) :
    narrow storage h l = if l.id = .rootParent then pure h else branchOff storage h l.id := by
  simp [narrow, hp]

theorem narrow_of_found {path : String} {id : EntryId} (hp : l.path = some path)
    (hf : findPath storage h path w = (.ok id, w')) :
    narrow storage h l w = branchOff storage h id w' := by
  simp [narrow, hp, step_apply, World.droppingOnFailure, hf]

theorem narrow_of_missed {path : String} (hp : l.path = some path)
    (hf : findPath storage h path w = (.error f, w')) :
    narrow storage h l w = (.error ⟨.resolve, f⟩, w'.drop h.number) := by
  simp [narrow, hp, step_apply, World.droppingOnFailure, hf]

theorem openLocator_of_unloaded (ha : loader l.backend w.parties = (.error f, p)) :
    openLocator loader storage l w = (.error ⟨.load, f⟩, w.asked (.load l.backend) p) := by
  simp [openLocator, step_apply, World.load, World.ask_apply, ha]

theorem openLocator_of_unopened {plugin : P} {p' : σ}
    (ha : loader l.backend w.parties = (.ok plugin, p))
    (hb : storage.instantiate plugin l.filesystem p = (.error f, p')) :
    openLocator loader storage l w = (.error ⟨.instantiate, f⟩,
      (w.asked (.load l.backend) p).asked (.instantiate plugin l.filesystem) p') := by
  simp [openLocator, step_apply, World.load, World.instantiate, World.opening,
    World.ask_apply, ha, hb]

theorem openLocator_of_opened {plugin : P} {b : B} {p' : σ}
    (ha : loader l.backend w.parties = (.ok plugin, p))
    (hb : storage.instantiate plugin l.filesystem p = (.ok b, p')) :
    openLocator loader storage l w = narrow storage ⟨w.opened, b⟩ l
      (((w.asked (.load l.backend) p).asked
        (.instantiate plugin l.filesystem) p').openHandle b).2 := by
  simp [openLocator, step_apply, World.load, World.instantiate, World.opening,
    World.ask_apply, ha, hb]

theorem openText_of_error {s : String} (hl : Locator.parse s = .error f) :
    openText loader storage s w = (.error ⟨.parse, f⟩, w) := by
  simp [openText, step_apply, hl]

theorem openText_of_ok {s : String} (hl : Locator.parse s = .ok l) :
    openText loader storage s w = openLocator loader storage l w := by
  simp [openText, step_apply, hl]

end Equations

theorem branchOff_course (h : Handle B) (id : EntryId) (w : World P B σ) :
    ∃ es, Branching storage h id w (branchOff storage h id w).1 es ∧
      w.Advances es (branchOff storage h id w).2 := by
  rcases hb : storage.branch h.backend id w.parties with ⟨f | b, p⟩
  · rw [branchOff_of_error hb]
    have hask := w.advances_asked p (e := .branch h.number id) rfl rfl
    exact ⟨_, .refused hb, hask.trans (World.advances_drop _ _)⟩
  · rw [branchOff_of_ok hb]
    have hask := w.advances_asked p (e := .branch h.number id) rfl rfl
    have hopen := hask.trans (World.advances_openHandle _ b)
    exact ⟨_, .branched hb, hopen.trans (World.advances_drop _ _)⟩

theorem narrow_course (h : Handle B) (l : Locator) (w : World P B σ) :
    ∃ es, Narrowing storage h l w (narrow storage h l w).1 es ∧
      w.Advances es (narrow storage h l w).2 := by
  rcases hp : l.path with _ | path
  · rw [narrow_of_no_path hp]
    by_cases hi : l.id = .rootParent
    · rw [if_pos hi]
      exact ⟨_, .whole hp hi, World.Advances.refl w⟩
    · rw [if_neg hi]
      obtain ⟨es, hes, hw⟩ := branchOff_course storage h l.id w
      exact ⟨es, .byId hp hi hes, hw⟩
  rcases hd : Locator.decodePath path with f | name
  · rw [narrow_of_missed hp (findPath_of_undecodable hd)]
    exact ⟨_, .undecodable hp hd, World.advances_drop w _⟩
  rcases ha : storage.lookup h.backend name .id w.parties with ⟨answer, p⟩
  have hf := findPath_of_decoded hd ha
  have hask := w.advances_asked p (e := .lookup h.number name .id) rfl rfl
  rcases answer with f | info
  · rw [narrow_of_missed hp hf]
    exact ⟨_, .notFound hp hd ha, hask.trans (World.advances_drop _ _)⟩
  rcases hi : info.id with _ | id
  · simp only [Except.bind, hi, Option.elim_none] at hf
    rw [narrow_of_missed hp hf]
    exact ⟨_, .unidentified hp hd ha hi, hask.trans (World.advances_drop _ _)⟩
  · simp only [Except.bind, hi, Option.elim_some] at hf
    rw [narrow_of_found hp hf]
    obtain ⟨es, hes, hw⟩ := branchOff_course storage h id (w.asked (.lookup h.number name .id) p)
    exact ⟨_, .byPath hp hd ha hi hes, hask.trans hw⟩

theorem openLocator_course (l : Locator) (w : World P B σ) :
    ∃ es, Opening loader storage l w (openLocator loader storage l w).1 es ∧
      w.Advances es (openLocator loader storage l w).2 := by
  rcases ha : loader l.backend w.parties with ⟨f | plugin, p⟩
  · rw [openLocator_of_unloaded ha]
    exact ⟨_, .unloaded ha, w.advances_asked p rfl rfl⟩
  have hload := w.advances_asked p (e := .load l.backend) rfl rfl
  rcases hb : storage.instantiate plugin l.filesystem p with ⟨f | b, p'⟩
  · rw [openLocator_of_unopened ha hb]
    exact ⟨_, .unopened ha hb, hload.trans (World.advances_asked _ p' rfl rfl)⟩
  · rw [openLocator_of_opened ha hb]
    have hask := hload.trans
      (World.advances_asked _ p' (e := .instantiate plugin l.filesystem) rfl rfl)
    have hopen := hask.trans (World.advances_openHandle _ b)
    obtain ⟨es, hes, hw⟩ := narrow_course storage ⟨w.opened, b⟩ l
      (((w.asked (.load l.backend) p).asked
        (.instantiate plugin l.filesystem) p').openHandle b).2
    exact ⟨_, .opened ha hb rfl hes, hopen.trans hw⟩

/-- Every resolution goes by one of the rules. -/
theorem openText_course (s : String) (w : World P B σ) :
    ∃ es, OpeningText loader storage s w (openText loader storage s w).1 es ∧
      w.Advances es (openText loader storage s w).2 := by
  rcases hl : Locator.parse s with f | l
  · rw [openText_of_error hl]
    exact ⟨_, .unparsed hl, World.Advances.refl w⟩
  · rw [openText_of_ok hl]
    obtain ⟨es, hes, hw⟩ := openLocator_course loader storage l w
    exact ⟨es, .parsed hl hes, hw⟩

end Resolution

end FileCatalog
