import GroupScript.Settings.Basic
import GroupScript.Store.Show

/-!
# The workspace

A workspace holds the groups of a session, the modules that are loaded, and the order in which groups are
searched for names.  It also collects what the session writes, what it logs, and how deep the calls in progress
are nested.
-/

namespace GroupScript

/-- Where a statement runs: names are bound in the local group and imports in the module group.  The number tells
scopes apart. -/
structure Scope where
  id : Nat
  localGroup : GroupId
  moduleGroup : GroupId
  deriving DecidableEq, Repr, Inhabited

/-- A loaded module: its group, and whether the program around the language provided it. -/
structure LoadedModule where
  group : GroupId
  native : Bool
  deriving DecidableEq, Repr, Inhabited

/-- The search path computed last, with the version of the workspace and the scope it was computed for. -/
structure SearchCache where
  version : Nat := 0
  scope : Nat := 0
  groups : List GroupId := []
  deriving DecidableEq, Repr, Inhabited

/-- How serious a log entry is. -/
inductive Severity
  | warning
  | error
  deriving DecidableEq, Repr, Inhabited

/-- An entry of the log. -/
structure LogEntry where
  severity : Severity
  text : String
  deriving DecidableEq, Repr, Inhabited

/-- The state of everything that scripts work on. -/
structure Workspace where
  store : Store
  root : GroupId
  modules : Dictionary LoadedModule
  /-- The directories in which modules are looked for. -/
  path : List String
  extension : String
  /-- The names of the groups that are searched between the module and the root. -/
  searchNames : List String
  /-- Grows with every change of the modules or of the search names. -/
  version : Nat
  cache : SearchCache
  /-- All text written so far. -/
  output : String
  log : Array LogEntry
  /-- The number of the next scope. -/
  nextScope : Nat
  /-- The number of procedure calls made so far. -/
  calls : Nat
  /-- The number of procedure calls and readings of defined variables in progress. -/
  depth : Nat
  deriving Inhabited

/-- The name of the root group. -/
def rootName : String := "_main"

/-- The names of the groups that hold what the language provides. -/
def coreNames : List String := ["_sys", "_builtin", "_math"]

/-- A computation on the workspace that can fail. -/
abbrev Access := EStateM Error Workspace

namespace Workspace

/-- Writes text. -/
def write (workspace : Workspace) (text : String) : Workspace :=
  { workspace with output := workspace.output ++ text }

/-- Logs a warning. -/
def warn (workspace : Workspace) (text : String) : Workspace :=
  { workspace with log := workspace.log.push ⟨.warning, text⟩ }

/-- Logs an error. -/
def logError (workspace : Workspace) (text : String) : Workspace :=
  { workspace with log := workspace.log.push ⟨.error, text⟩ }

/-- The group kept under a number. -/
def group (workspace : Workspace) (id : GroupId) : Group :=
  workspace.store.group id

/-- Changes one group. -/
def modifyGroup (workspace : Workspace) (id : GroupId) (change : Group → Group) : Workspace :=
  { workspace with store := workspace.store.modifyGroup id change }

/-- Binds a member of a group. -/
def setMember (workspace : Workspace) (id : GroupId) (name : String) (value : Value) : Workspace :=
  workspace.modifyGroup id (·.set name value)

/-- Makes a new group. -/
def newGroup (workspace : Workspace) (group : Group) : GroupId × Workspace :=
  let (id, store) := workspace.store.newGroup group
  (id, { workspace with store })

/-- Makes a new scope. -/
def newScope (workspace : Workspace) (localGroup moduleGroup : GroupId) : Scope × Workspace :=
  (⟨workspace.nextScope, localGroup, moduleGroup⟩,
    { workspace with nextScope := workspace.nextScope + 1 })

/-- Makes a new scope in which imports are bound like all other names. -/
def isolatedScope (workspace : Workspace) (group : GroupId) : Scope × Workspace :=
  workspace.newScope group group

/-- Registers a module under a name. -/
def register (workspace : Workspace) (name : String) (loaded : LoadedModule) : Workspace :=
  { workspace with
    modules := workspace.modules.put name loaded
    version := workspace.version + 1 }

/-- The group of a loaded module. -/
def moduleGroup? (workspace : Workspace) (name : String) : Option GroupId :=
  (workspace.modules.get? name).map LoadedModule.group

/-- The group of one of the core names. -/
def coreGroup? (workspace : Workspace) (name : String) : Option GroupId :=
  if coreNames.contains name then workspace.moduleGroup? name else none

/-- The extension of module files, given with or without dots before it. -/
def setExtension (workspace : Workspace) (extension : String) : Workspace :=
  { workspace with extension := String.ofList (extension.toList.dropWhile (· == '.')) }

/-- Adds names to a list, each once. -/
def addNames (names : List String) : List String → List String
  | [] => names
  | name :: rest => addNames (if names.contains name then names else names ++ [name]) rest

/-- Sets the names that are searched; the core names are always among them. -/
def setSearchNames (workspace : Workspace) (names : List String) : Workspace :=
  { workspace with
    searchNames := addNames [] (names ++ coreNames)
    version := workspace.version + 1 }

/-- Makes the protected group of a core name and binds it in the root. -/
def addCore (workspace : Workspace) (name : String) : Workspace :=
  let (id, workspace) := workspace.newGroup { isProtected := true }
  let workspace := workspace.setMember workspace.root name (.group id)
  { workspace with modules := workspace.modules.put name ⟨id, true⟩ }

/-- A workspace with a root and empty core groups. -/
def empty : Workspace :=
  let (root, store) := ({} : Store).newGroup { isProtected := true }
  let start : Workspace :=
    { store
      root
      modules := ({} : Dictionary LoadedModule).put rootName ⟨root, false⟩
      path := ["."]
      extension := "tdl"
      searchNames := coreNames
      version := 1
      cache := {}
      output := ""
      log := #[]
      nextScope := 1
      calls := 0
      depth := 0 }
  coreNames.foldl addCore start

end Workspace

end GroupScript
