import GroupScript.Workspace.Resolve

/-!
# Listings

What a workspace tells about its groups: the members of one group, the groups in the root, and the workspace
itself in diagnostics.
-/

namespace GroupScript.Workspace

/-- The listing of a group under a title: the number of its members and a line for each. -/
def listing (workspace : Workspace) (title : String) (id : GroupId) : String :=
  let members := (workspace.group id).visible
  "== " ++ title ++ ": " ++ toString members.length ++ " symbols ==\n" ++
    String.join (members.map fun item =>
      "  " ++ item.1 ++ ": " ++ workspace.store.quoted item.2.value ++ "\n")

/-- Writes the listing of a named group, or of the root. -/
def showGroup (scope : Scope) (name : Option String) : Access Unit := do
  match name with
  | none => modify fun workspace => workspace.write (workspace.listing rootName workspace.root)
  | some name => do
      let id ← resolveGroup scope name
      modify fun workspace => workspace.write (workspace.listing name id)

/-- Writes the names and sizes of the groups in the root. -/
def listGroups (workspace : Workspace) : Workspace :=
  let line (item : String × Member) : String :=
    match item.2.value with
    | .group id =>
        "  " ++ item.1 ++ ": " ++ toString (workspace.group id).size ++ " symbols\n"
    | _ => ""
  workspace.write (String.join ((workspace.group workspace.root).visible.map line))

/-- A list of strings in double quotes. -/
def quotedList (items : List String) : String :=
  "[" ++ Text.joinStrings ", "
    (items.map fun item => String.ofList (Text.doubleQuoted item.toList)) ++ "]"

/-- The workspace in diagnostics. -/
def summary (workspace : Workspace) : String :=
  "SymbolTable \x7b root: GroupRef(" ++ identityText workspace.root ++ "), modules: " ++
    quotedList (workspace.modules.sorted.map Prod.fst) ++ ", path: " ++
    quotedList workspace.path ++ ", search_names: " ++ quotedList workspace.searchNames ++ " \x7d"

end GroupScript.Workspace
