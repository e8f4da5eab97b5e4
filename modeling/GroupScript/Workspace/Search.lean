import GroupScript.Workspace.Basic

/-!
# The search path

A name is searched in the local group, the module group, the groups of the search names, and the root, each
group once.  The path computed last is kept, and computed again only if the scope or the version of the workspace
has changed.
-/

namespace GroupScript.Workspace

/-- The groups of a list, each at its first place. -/
def distinct : List GroupId → List GroupId
  | [] => []
  | id :: rest => id :: (distinct rest).filter (· != id)

/-- The group that a value is. -/
def groupOf? : Value → Option GroupId
  | .group id => some id
  | _ => none

/-- The group that a search name stands for: the module of that name, or else the first group of that name in a
module, modules taken in the order of their names. -/
def searchGroup? (workspace : Workspace) (name : String) : Option GroupId :=
  match workspace.moduleGroup? name with
  | some id => some id
  | none =>
      workspace.modules.sorted.findSome? fun entry =>
        ((workspace.group entry.2.group).get? name).bind groupOf?

/-- The groups searched from a scope, computed anew. -/
def searchPath (workspace : Workspace) (scope : Scope) : List GroupId :=
  distinct ([scope.localGroup, scope.moduleGroup] ++
    workspace.searchNames.filterMap workspace.searchGroup? ++ [workspace.root])

/-- The search names that stand for no group. -/
def idleNames (workspace : Workspace) : List String :=
  workspace.searchNames.filter fun name => (workspace.searchGroup? name).isNone

/-- The warning about a search name that stands for no group. -/
def idleWarning (name : String) : LogEntry :=
  ⟨.warning, "search name " ++ name ++ " does not name a group"⟩

/-- Makes sure that the kept search path is the one of a scope. -/
def refresh (workspace : Workspace) (scope : Scope) : Workspace :=
  if workspace.cache.version = workspace.version ∧ workspace.cache.scope = scope.id then workspace
  else
    { workspace with
      cache := ⟨workspace.version, scope.id, workspace.searchPath scope⟩
      log := workspace.log ++ (workspace.idleNames.map idleWarning).toArray }

/-- The groups searched from a scope. -/
def searchGroups (scope : Scope) : Access (List GroupId) := do
  modify (·.refresh scope)
  return (← get).cache.groups

/-- The value of a name without dots. -/
def lookupFirst (scope : Scope) (name : String) : Access (Option Value) := do
  if name = rootName then return some (.group (← get).root)
  else
    let groups ← searchGroups scope
    let workspace ← get
    return groups.findSome? fun id => (workspace.group id).get? name

end GroupScript.Workspace
