import FileCatalog.Proofs.Addressing
import FileCatalog.Session
import Mathlib.Data.List.Induction
import Mathlib.Data.String.Basic

/-!
# Registrations

What a registry has come to is told by the list of all registrations: of each name it has the plugin
that was registered last, whether that one can be loaded or not. Two lists that have the same plugins
of each name in the same order make the same registry. A session loads from the registry that its
registrations so far have made, so a filesystem is only ever opened with the latest plugin of the
locator's scheme, and with none that was written for another version.
-/

namespace FileCatalog

variable {P B σ : Type}

namespace Plugin

variable [Plugin P]

def called (plugins : List P) (name : String) : List P :=
  plugins.filter fun p => Plugin.name p = name

def latest (plugins : List P) (name : String) : Option P := (called plugins name).getLast?

section Latest

variable {plugins : List P} {plugin : P} {name : String}

theorem latest_concat (plugins : List P) (plugin : P) (name : String) :
    latest (plugins ++ [plugin]) name =
      if Plugin.name plugin = name then some plugin else latest plugins name := by
  by_cases h : Plugin.name plugin = name <;> simp [latest, called, List.filter_append, h]

theorem latest_eq_none_iff : latest plugins name = none ↔ ∀ p ∈ plugins, Plugin.name p ≠ name := by
  simp [latest, called]

theorem exists_latest_iff :
    (∃ p, latest plugins name = some p) ↔ ∃ p ∈ plugins, Plugin.name p = name := by
  rw [← Option.isSome_iff_exists, Option.isSome_iff_ne_none, Ne, latest_eq_none_iff]
  simp

end Latest

end Plugin

namespace Registry

open Plugin (called latest)

theorem names_increasing (r : Registry P) : r.names.Pairwise (· < ·) :=
  Std.ExtTreeMap.ordered_keys.imp compare_lt_iff_lt.mp

variable [Plugin P]

def built (plugins : List P) : Registry P := plugins.foldl (fun r p => (r.register p).2) .empty

section Built

variable {plugins others : List P} {plugin : P} {name : String}

theorem built_append (plugins more : List P) :
    built (plugins ++ more) = more.foldl (fun r p => (r.register p).2) (built plugins) :=
  List.foldl_append

theorem getElem?_register (r : Registry P) (plugin : P) (name : String) :
    (r.register plugin).2.plugins[name]? =
      if Plugin.name plugin = name then some plugin else r.plugins[name]? := by
  rw [register, Std.ExtTreeMap.getElem?_insert]
  simp only [Std.LawfulEqOrd.compare_eq_iff_eq]

theorem getElem?_built (plugins : List P) (name : String) :
    (built plugins).plugins[name]? = latest plugins name := by
  -- by induction on the registrations, the last one of which is the one that counts
  induction plugins using List.reverseRecOn with
  | nil => exact Std.ExtTreeMap.getElem?_empty
  | append_singleton plugins plugin ih =>
    rw [built_append, Plugin.latest_concat, ← ih]
    exact getElem?_register _ _ _

theorem register_built (plugins : List P) (plugin : P) :
    ((built plugins).register plugin).1 = latest plugins (Plugin.name plugin) :=
  getElem?_built _ _

theorem load_built (plugins : List P) (name : String) :
    (built plugins).load name =
      match latest plugins name with
      | none => .error (.unknownPlugin name)
      | some plugin =>
        if Plugin.version plugin = interfaceVersion then .ok plugin
        else .error (.incompatiblePlugin name (Plugin.version plugin) interfaceVersion) := by
  rw [← getElem?_built]
  rfl

theorem load_eq_ok_iff : (built plugins).load name = .ok plugin ↔
    latest plugins name = some plugin ∧ Plugin.version plugin = interfaceVersion := by
  rw [load_built]
  cases latest plugins name with
  | none => simp
  | some p => by_cases h : Plugin.version p = interfaceVersion <;> grind

theorem load_eq_unknown_iff : (built plugins).load name = .error (.unknownPlugin name) ↔
    ∀ p ∈ plugins, Plugin.name p ≠ name := by
  rw [load_built, ← Plugin.latest_eq_none_iff]
  cases latest plugins name with
  | none => simp
  | some p => by_cases h : Plugin.version p = interfaceVersion <;> simp [h]

theorem load_eq_incompatible_iff {found : UInt32} :
    (built plugins).load name = .error (.incompatiblePlugin name found interfaceVersion) ↔
      ∃ p, latest plugins name = some p ∧ Plugin.version p = found ∧ found ≠ interfaceVersion := by
  rw [load_built]
  cases latest plugins name with
  | none => simp
  | some p => by_cases h : Plugin.version p = interfaceVersion <;> grind

theorem mem_names_iff : name ∈ (built plugins).names ↔ ∃ p ∈ plugins, Plugin.name p = name := by
  rw [names, Std.ExtTreeMap.mem_keys, Std.ExtTreeMap.mem_iff_isSome_getElem?, getElem?_built,
    Option.isSome_iff_exists, Plugin.exists_latest_iff]

theorem built_eq_of_called (h : ∀ name, called plugins name = called others name) :
    built plugins = built others := by
  have hplugins : (built plugins).plugins = (built others).plugins := by
    apply Std.ExtTreeMap.ext_getElem?
    intro name
    rw [getElem?_built, getElem?_built, latest, latest, h name]
  rcases hp : built plugins with ⟨map⟩
  rcases ho : built others with ⟨map'⟩
  rw [hp, ho] at hplugins
  exact congrArg Registry.mk hplugins

end Built

end Registry

def OpensNothing (events : List (Event P B)) : Prop :=
  ∀ plugin filesystem, .instantiate plugin filesystem ∉ events

namespace Resolution

section Openings

variable {loader : Loader P σ} {storage : Storage P B σ} {h : Handle B} {l : Locator}
  {w : World P B σ} {outcome : Except ResolveFault (Handle B)} {es : List (Event P B)}
  {plugin : P} {filesystem : String}

theorem Narrowing.opensNothing (hn : Narrowing storage h l w outcome es) : OpensNothing es := by
  intro plugin filesystem hmem
  have hstep : Step.instantiate ∈ es.filterMap Event.step? := List.mem_filterMap.mpr ⟨_, hmem, rfl⟩
  have hlate := hn.steps.subset hstep
  simp at hlate

theorem Opening.loaded (ho : Opening loader storage l w outcome es)
    (hmem : .instantiate plugin filesystem ∈ es) :
    filesystem = l.filesystem ∧ ∃ p, loader l.backend w.parties = (.ok plugin, p) := by
  cases ho with
  | unloaded hload => simp at hmem
  | unopened hload _ =>
    obtain ⟨rfl, rfl⟩ : plugin = _ ∧ filesystem = _ := by simpa using hmem
    exact ⟨rfl, _, hload⟩
  | opened hload _ _ hn =>
    have hnot := hn.opensNothing plugin filesystem
    obtain ⟨rfl, rfl⟩ : plugin = _ ∧ filesystem = _ := by simpa [hnot] using hmem
    exact ⟨rfl, _, hload⟩

theorem Opening.instantiates {p : σ} (ho : Opening loader storage l w outcome es)
    (hload : loader l.backend w.parties = (.ok plugin, p)) :
    .instantiate plugin l.filesystem ∈ es := by
  cases ho with
  | unloaded h =>
    rw [hload] at h
    cases h
  | unopened h _ =>
    rw [hload] at h
    cases h
    exact List.mem_cons_of_mem _ List.mem_cons_self
  | opened h _ _ _ =>
    rw [hload] at h
    cases h
    exact List.mem_cons_of_mem _ List.mem_cons_self

end Openings

end Resolution

namespace Session

open Plugin (called latest)
open Registry (built)

def Command.registered? : Command P → Option P
  | .register plugin => some plugin
  | _ => none

def Command.locator? : Command P → Option Locator
  | .openText s => (Locator.parse s).toOption
  | .openParts parts => (Locator.ofParts parts).toOption
  | _ => none

def registered (commands : List (Command P)) : List P := commands.filterMap Command.registered?

/-- The second session has the registry of the first one, and more in its log. -/
structure Logs (s : Session P B σ) (events : List (Event P B)) (s' : Session P B σ) : Prop where
  registry : s'.registry = s.registry
  log : s'.world.log = s.world.log ++ events

section Slots

variable {storage : Storage P B σ} {s : Session P B σ}

theorem logs_refl (s : Session P B σ) : s.Logs [] s := ⟨rfl, (List.append_nil _).symm⟩

theorem keepResolved_logs {r : Resolution P B σ (Handle B)} {es : List (Event P B)}
    (h : (r s.world).2.log = s.world.log ++ es) : s.Logs es (keepResolved storage s r).2 := by
  rcases hr : r s.world with ⟨f | handle, world⟩ <;> rw [hr] at h <;>
    simp only [keepResolved, keep, hr] <;> exact ⟨rfl, h⟩

theorem onSlot_logs {α : Type} {slot : Nat} {work : Handle B → Attempt (World P B σ) α}
    {answer : Session P B σ → α → Answer P × Session P B σ}
    (hwork : ∀ h w, ∃ es, OpensNothing es ∧ (work h w).2.log = w.log ++ es)
    (hanswer : ∀ s a, (answer s a).2.registry = s.registry ∧ (answer s a).2.world = s.world) :
    ∃ es, OpensNothing es ∧ s.Logs es (onSlot s slot work answer).2 := by
  cases hslot : s.handleAt? slot with
  | none =>
    simp only [onSlot, hslot]
    exact ⟨[], fun _ _ => List.not_mem_nil, logs_refl s⟩
  | some h =>
    obtain ⟨es, hes, hlog⟩ := hwork h s.world
    rcases hrun : work h s.world with ⟨f | a, world⟩ <;> rw [hrun] at hlog <;>
      simp only [onSlot, hslot, hrun]
    · exact ⟨es, hes, rfl, hlog⟩
    · obtain ⟨hregistry, hworld⟩ := hanswer { s with world } a
      exact ⟨es, hes, hregistry, (congrArg World.log hworld).trans hlog⟩

variable (storage)

theorem lookup_opensNothing (h : Handle B) (path : String) (mask : FieldMask) (w : World P B σ) :
    ∃ es, OpensNothing es ∧ (World.lookup storage h path mask w).2.log = w.log ++ es :=
  ⟨[.lookup h.number path mask], by simp [OpensNothing], rfl⟩

theorem entryId_opensNothing (h : Handle B) (path : String) (w : World P B σ) :
    ∃ es, OpensNothing es ∧ (World.entryId storage h path w).2.log = w.log ++ es := by
  have hlookup : (World.entryId storage h path w).2 = (World.lookup storage h path .id w).2 := by
    rw [World.entryId, Attempt.bind_apply]
    rcases World.lookup storage h path .id w with ⟨f | info, world⟩
    · rfl
    · cases hid : info.id <;> simp [hid]
  rw [hlookup]
  exact lookup_opensNothing storage h path .id w

theorem branch_opensNothing (h : Handle B) (id : EntryId) (w : World P B σ) :
    ∃ es, OpensNothing es ∧ (World.branch storage h id w).2.log = w.log ++ es := by
  have hask := World.ask_apply (.branch h.number id) (storage.branch h.backend id) w
  rcases hb : storage.branch h.backend id w.parties with ⟨f | b, p⟩ <;> rw [hb] at hask
  · refine ⟨[.branch h.number id], by simp [OpensNothing], ?_⟩
    simp [World.branch, World.opening, hask, World.asked, World.note]
  · refine ⟨[.branch h.number id, .opened ⟨w.opened, b⟩], by simp [OpensNothing], ?_⟩
    simp [World.branch, World.opening, hask, World.asked, World.note, World.openHandle]

end Slots

variable [Plugin P]

/-- Filesystems are opened for the locator alone, with the plugin that the registry loads for it. -/
def OpensBy (r : Registry P) (locator : Option Locator) (events : List (Event P B)) : Prop :=
  ∀ plugin filesystem, .instantiate plugin filesystem ∈ events →
    ∃ l, locator = some l ∧ filesystem = l.filesystem ∧ r.load l.backend = .ok plugin

section Commands

variable {storage : Storage P B σ} {s : Session P B σ} {events : List (Event P B)}

theorem opensBy_of_nothing (h : OpensNothing events) (r : Registry P) (locator : Option Locator) :
    OpensBy r locator events := fun plugin filesystem hmem => absurd hmem (h plugin filesystem)

theorem onSlot_opensBy {α : Type} {slot : Nat} {work : Handle B → Attempt (World P B σ) α}
    {answer : Session P B σ → α → Answer P × Session P B σ} (locator : Option Locator)
    (hwork : ∀ h w, ∃ es, OpensNothing es ∧ (work h w).2.log = w.log ++ es)
    (hanswer : ∀ s a, (answer s a).2.registry = s.registry ∧ (answer s a).2.world = s.world) :
    ∃ es, OpensBy s.registry locator es ∧ s.Logs es (onSlot s slot work answer).2 := by
  obtain ⟨es, hes, hlogs⟩ := onSlot_logs (s := s) hwork hanswer
  exact ⟨es, opensBy_of_nothing hes _ _, hlogs⟩

variable (storage)

theorem openLocator_opensBy (s : Session P B σ) (l : Locator) :
    ∃ es, OpensBy s.registry (some l) es ∧
      (Resolution.openLocator s.loader storage l s.world).2.log = s.world.log ++ es := by
  obtain ⟨es, hes, hw⟩ := Resolution.openLocator_course s.loader storage l s.world
  refine ⟨es, ?_, hw.log⟩
  intro plugin filesystem hmem
  obtain ⟨hname, p, hload⟩ := hes.loaded hmem
  exact ⟨l, rfl, hname, congrArg Prod.fst hload⟩

theorem openText_opensBy (s : Session P B σ) (locator : String) :
    ∃ es, OpensBy s.registry (Locator.parse locator).toOption es ∧
      (Resolution.openText s.loader storage locator s.world).2.log = s.world.log ++ es := by
  cases hl : Locator.parse locator with
  | error f =>
    rw [Resolution.openText_of_error hl]
    exact ⟨[], nofun, (List.append_nil _).symm⟩
  | ok l =>
    rw [Resolution.openText_of_ok hl]
    exact openLocator_opensBy storage s l

theorem perform_logs (s : Session P B σ) (c : Command P) (hc : c.registered? = none) :
    ∃ es, OpensBy s.registry c.locator? es ∧ s.Logs es (s.perform storage c).2 := by
  cases c with
  | register plugin => cases hc
  | names => exact ⟨[], nofun, logs_refl s⟩
  | text => exact ⟨[], nofun, logs_refl s⟩
  | load name =>
    rw [perform]
    cases s.registry.load name <;> exact ⟨[], nofun, logs_refl s⟩
  | openText locator =>
    obtain ⟨es, hes, hlog⟩ := openText_opensBy storage s locator
    exact ⟨es, hes, keepResolved_logs hlog⟩
  | openParts parts =>
    rw [perform, Command.locator?]
    cases Locator.ofParts parts with
    | error f => exact ⟨[], nofun, logs_refl s⟩
    | ok l =>
      obtain ⟨es, hes, hlog⟩ := openLocator_opensBy storage s l
      exact ⟨es, hes, keepResolved_logs hlog⟩
  | name slot =>
    apply onSlot_opensBy none
    · exact fun h w => ⟨[], fun _ _ => List.not_mem_nil, (List.append_nil _).symm⟩
    · exact fun _ _ => ⟨rfl, rfl⟩
  | lookup slot path mask =>
    apply onSlot_opensBy none
    · exact fun h w => lookup_opensNothing storage h path mask w
    · exact fun _ _ => ⟨rfl, rfl⟩
  | entryId slot path =>
    apply onSlot_opensBy none
    · exact fun h w => entryId_opensNothing storage h path w
    · exact fun _ _ => ⟨rfl, rfl⟩
  | branch slot id =>
    apply onSlot_opensBy none
    · exact fun h w => branch_opensNothing storage h id w
    · exact fun _ _ => ⟨rfl, rfl⟩
  | drop slot =>
    apply onSlot_opensBy none
    · exact fun h w => ⟨[.dropped h.number], by simp [OpensNothing], rfl⟩
    · exact fun _ _ => ⟨rfl, rfl⟩

theorem registry_perform {plugins : List P} (hs : s.registry = built plugins) (c : Command P) :
    (s.perform storage c).2.registry = built (plugins ++ c.registered?.toList) := by
  cases hc : c.registered? with
  | none =>
    obtain ⟨es, -, hlogs⟩ := perform_logs storage s c hc
    rw [hlogs.registry, hs, Option.toList_none, List.append_nil]
  | some plugin =>
    cases c with
    | register plugin =>
      cases hc
      rw [Registry.built_append, ← hs]
      rfl
    | _ => cases hc

theorem events_report {c : Command P}
    (hlog : (s.perform storage c).2.world.log = s.world.log ++ events) :
    (s.report storage c).1.events = events := by
  simp only [report, hlog, List.drop_left]

theorem report_opensBy (s : Session P B σ) (c : Command P) :
    OpensBy s.registry c.locator? (s.report storage c).1.events := by
  cases hc : c.registered? with
  | none =>
    obtain ⟨es, hes, hlogs⟩ := perform_logs storage s c hc
    rw [events_report storage hlogs.log]
    exact hes
  | some plugin =>
    cases c with
    | register plugin =>
      rw [events_report storage (List.append_nil _).symm]
      exact nofun
    | _ => cases hc

theorem instantiate_mem_report {locator : String} {l : Locator} {plugin : P}
    (hl : Locator.parse locator = .ok l) (hload : s.registry.load l.backend = .ok plugin) :
    .instantiate plugin l.filesystem ∈ (s.report storage (.openText locator)).1.events := by
  obtain ⟨es, hes, hw⟩ := Resolution.openLocator_course s.loader storage l s.world
  have hlog := hw.log
  rw [← Resolution.openText_of_ok hl] at hlog
  have hperform : s.Logs es (s.perform storage (.openText locator)).2 := keepResolved_logs hlog
  have hasked : s.loader l.backend s.world.parties = (.ok plugin, s.world.parties) :=
    congrArg (·, s.world.parties) hload
  rw [events_report storage hperform.log]
  exact hes.instantiates hasked

theorem run_cons (s : Session P B σ) (c : Command P) (cs : List (Command P)) :
    s.run storage (c :: cs) =
      ((s.report storage c).1 :: ((s.report storage c).2.run storage cs).1,
        ((s.report storage c).2.run storage cs).2) := rfl

theorem run_append (s : Session P B σ) (before after : List (Command P)) :
    s.run storage (before ++ after) =
      ((s.run storage before).1 ++ ((s.run storage before).2.run storage after).1,
        ((s.run storage before).2.run storage after).2) := by
  induction before generalizing s with
  | nil => rfl
  | cons c before ih => simp only [List.cons_append, run_cons, ih]

theorem length_run (s : Session P B σ) (cs : List (Command P)) :
    (s.run storage cs).1.length = cs.length := by
  induction cs generalizing s with
  | nil => rfl
  | cons c cs ih => exact congrArg Nat.succ (ih _)

theorem registry_run {plugins : List P} (hs : s.registry = built plugins) (cs : List (Command P)) :
    (s.run storage cs).2.registry = built (plugins ++ registered cs) := by
  induction cs generalizing s plugins with
  | nil =>
    rw [registered, List.filterMap_nil, List.append_nil]
    exact hs
  | cons c cs ih =>
    have hafter : (s.report storage c).2.registry = built (plugins ++ c.registered?.toList) :=
      registry_perform storage hs c
    rw [run_cons, ih hafter, List.append_assoc, registered, registered, List.filterMap_cons]
    cases c.registered? <;> rfl

/-- The report at the turn of a command is the one it gets from the session that the turns before it
have left. -/
theorem getElem?_run (s : Session P B σ) (before : List (Command P)) (c : Command P)
    (after : List (Command P)) :
    (s.run storage (before ++ c :: after)).1[before.length]? =
      some ((s.run storage before).2.report storage c).1 := by
  rw [run_append, ← length_run storage s before,
    List.getElem?_append_right (Nat.le_refl _), Nat.sub_self, run_cons, List.getElem?_cons_zero]

end Commands

end Session

open Plugin (called latest)
open Registry (built)
open Session

/-- A registration answers with the plugin that was the latest of its name before. A name is loaded
as the latest plugin of that name, or refused as unknown if there is none, or as incompatible if
just that plugin was written for another version; and the names are listed in increasing order.
Registrations that have the same plugins of each name in the same order are the same for everything
that comes later. In a session of all kinds of commands, a filesystem is only ever opened for the
locator of the command, and with the latest plugin of its scheme, which is of the right version. -/
theorem latest_registration_counts [Plugin P] (storage : Storage P B σ) :
    (∀ (before : List P) (plugin : P),
      ((built before).register plugin).1 = latest before (Plugin.name plugin)) ∧
    (∀ (plugins : List P) (name : String),
      ((built plugins).load name = .error (.unknownPlugin name) ↔
        ∀ p ∈ plugins, Plugin.name p ≠ name) ∧
      (∀ found, (built plugins).load name =
          .error (.incompatiblePlugin name found interfaceVersion) ↔
        ∃ p, latest plugins name = some p ∧ Plugin.version p = found ∧ found ≠ interfaceVersion) ∧
      ∀ p, (built plugins).load name = .ok p ↔
        latest plugins name = some p ∧ Plugin.version p = interfaceVersion) ∧
    (∀ plugins : List P, (built plugins).names.Pairwise (· < ·) ∧
      ∀ name, name ∈ (built plugins).names ↔ ∃ p ∈ plugins, Plugin.name p = name) ∧
    (∀ plugins others : List P, (∀ name, called plugins name = called others name) → ∀ more,
      (built (plugins ++ more)).names = (built (others ++ more)).names ∧
        ∀ name, (built (plugins ++ more)).load name = (built (others ++ more)).load name) ∧
    ∀ (parties : σ) (before : List (Command P)) (c : Command P) (after : List (Command P)),
      ∃ report, ((start parties).run storage (before ++ c :: after)).1[before.length]? =
          some report ∧
        ∀ plugin filesystem, .instantiate plugin filesystem ∈ report.events →
          ∃ l, c.locator? = some l ∧ filesystem = l.filesystem ∧
            latest (registered before) l.backend = some plugin ∧
            Plugin.version plugin = interfaceVersion := by
  refine ⟨Registry.register_built, ?_, ?_, ?_, ?_⟩
  · exact fun plugins name => ⟨Registry.load_eq_unknown_iff,
      fun found => Registry.load_eq_incompatible_iff, fun p => Registry.load_eq_ok_iff⟩
  · exact fun plugins => ⟨Registry.names_increasing _, fun name => Registry.mem_names_iff⟩
  · intro plugins others hcalled more
    have hbuilt : built (plugins ++ more) = built (others ++ more) := by
      rw [Registry.built_append, Registry.built_append, Registry.built_eq_of_called hcalled]
    rw [hbuilt]
    exact ⟨rfl, fun name => rfl⟩
  · intro parties before c after
    have hempty : (start parties : Session P B σ).registry = built [] := rfl
    have hregistry := registry_run storage hempty before
    refine ⟨_, getElem?_run storage _ before c after, ?_⟩
    intro plugin filesystem hmem
    obtain ⟨l, hl, hname, hload⟩ := report_opensBy storage _ c plugin filesystem hmem
    rw [hregistry, List.nil_append, Registry.load_eq_ok_iff] at hload
    exact ⟨l, hl, hname, hload⟩

def Scripted.newPlugin : Scripted.Plugin := { Scripted.openPlugin with backendName := "posix2" }

def Scripted.alienPlugin : Scripted.Plugin :=
  { Scripted.openPlugin with name := "lustre", version := 7 }

open Scripted (openPlugin newPlugin alienPlugin)

/-- The open plugin is replaced by the new one, with an alien one between them. -/
theorem latest_registration_counts_of_three :
    (∀ name, called [openPlugin, alienPlugin, newPlugin] name =
      called [alienPlugin, openPlugin, newPlugin] name) ∧
    (∀ name, (built ([openPlugin, alienPlugin, newPlugin] ++ [openPlugin])).load name =
      (built ([alienPlugin, openPlugin, newPlugin] ++ [openPlugin])).load name) ∧
    (built [openPlugin, alienPlugin]).load "lustre" =
      .error (.incompatiblePlugin "lustre" 7 interfaceVersion) ∧
    ∃ (report : Report Scripted.Plugin Scripted.Backend) (l : Locator),
      ((start ()).run Scripted.storage
        [.register openPlugin, .register newPlugin, .openText "posix://home"]).1[2]? =
          some report ∧
      .instantiate newPlugin "home" ∈ report.events ∧ "home" = l.filesystem ∧
      latest [openPlugin, newPlugin] l.backend = some newPlugin := by
  have hcalled (name : String) : called [openPlugin, alienPlugin, newPlugin] name =
      called [alienPlugin, openPlugin, newPlugin] name := by
    by_cases h : Plugin.name alienPlugin = name
    · subst h
      rfl
    · simp [called, List.filter_cons, h]
  obtain ⟨-, hload, -, hsame, hsession⟩ := latest_registration_counts (σ := Unit) Scripted.storage
  obtain ⟨report, hreport, hopened⟩ :=
    hsession () [.register openPlugin, .register newPlugin] (.openText "posix://home") []
  have hparse : Locator.parse "posix://home" = .ok ⟨"posix", "home", .rootParent, none⟩ := by
    decide +kernel
  have hmem : .instantiate newPlugin "home" ∈ report.events := by
    rw [getElem?_run Scripted.storage (start ()) _ _ _, Option.some.injEq] at hreport
    have hempty : (start () : Session Scripted.Plugin Scripted.Backend Unit).registry = built [] := rfl
    rw [← hreport]
    apply instantiate_mem_report Scripted.storage hparse
    rw [registry_run Scripted.storage hempty]
    exact ((hload [openPlugin, newPlugin] "posix").2.2 newPlugin).mpr ⟨rfl, rfl⟩
  obtain ⟨l, hl, hname, hlatest, -⟩ := hopened newPlugin "home" hmem
  have halien : (built [openPlugin, alienPlugin]).load "lustre" =
      .error (.incompatiblePlugin "lustre" 7 interfaceVersion) :=
    ((hload [openPlugin, alienPlugin] "lustre").2.1 7).mpr ⟨alienPlugin, rfl, rfl, by decide⟩
  exact ⟨hcalled, (hsame _ _ hcalled [openPlugin]).2, halien, report, l, hreport, hmem, hname, hlatest⟩

end FileCatalog
