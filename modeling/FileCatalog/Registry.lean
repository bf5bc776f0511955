import FileCatalog.Fault
import FileCatalog.Text.Quoted
import Std.Data.ExtTreeMap.Basic

/-!
# Plugin registries

A registry knows plugins by name. Registering a plugin replaces the one that was known under its
name before, and a plugin is checked only when it is loaded: one that was written for another
version of the interface can be registered, and hides an older one, but cannot be loaded.
-/

namespace FileCatalog

class Plugin (P : Type) where
  /-- The name that locators use as their scheme. -/
  name : P → String
  /-- The version of the interface that the plugin was written for. -/
  version : P → UInt32

/-- The version of the interface that this library has. -/
def interfaceVersion : UInt32 := 1

/-- Plugins by name; the order of the map is the order in which names are listed. -/
structure Registry (P : Type) where
  plugins : Std.ExtTreeMap String P

namespace Registry

variable {P : Type} [Plugin P]

def empty : Registry P := ⟨∅⟩

/-- Enter a plugin and return the one that it replaces. -/
def register (r : Registry P) (plugin : P) : Option P × Registry P :=
  (r.plugins[Plugin.name plugin]?, ⟨r.plugins.insert (Plugin.name plugin) plugin⟩)

def names (r : Registry P) : List String := r.plugins.keys

def load (r : Registry P) (name : String) : Except Fault P :=
  match r.plugins[name]? with
  | none => .error (.unknownPlugin name)
  | some plugin =>
    let found := Plugin.version plugin
    if found = interfaceVersion then .ok plugin
    else .error (.incompatiblePlugin name found interfaceVersion)

/-- The registry in words: its name and the quoted names of the plugins. -/
def text (r : Registry P) : String :=
  "PluginRegistry \x7b plugins: [" ++ ", ".intercalate (r.names.map Text.quote) ++ "] \x7d"

end Registry

end FileCatalog
