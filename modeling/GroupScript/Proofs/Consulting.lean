import GroupScript.Proofs.Guarantee
import GroupScript.Proofs.SimpleStatement
import GroupScript.Workspace.Listing

/-!
# Consulting a workspace

Looking up names changes nothing but the search path that a workspace keeps, and the log.  Listings are written besides.
What is found is a member of one of the groups on the search path, or reached from such a member through groups.
-/

namespace GroupScript.Workspace

/-- The workspace after names were looked up from a scope and texts were written: only the search path kept, the
output and the log may differ. -/
def Consulted (scope : Scope) (before after : Workspace) : Prop :=
  ∃ cache output log, after = { before with cache, output, log } ∧
    (cache = before.cache ∨ cache = ⟨before.version, scope.id, before.searchPath scope⟩)

variable {scope : Scope} {first second third workspace after : Workspace}

theorem Consulted.refl (scope : Scope) (workspace : Workspace) :
    Consulted scope workspace workspace :=
  ⟨workspace.cache, workspace.output, workspace.log, rfl, .inl rfl⟩

theorem Consulted.trans (before : Consulted scope first second) (later : Consulted scope second third) :
    Consulted scope first third := by
  obtain ⟨cache, output, log, rfl, source⟩ := before
  obtain ⟨lastCache, lastOutput, lastLog, rfl, lastSource⟩ := later
  refine ⟨lastCache, lastOutput, lastLog, rfl, ?_⟩
  rcases lastSource with rfl | recomputed
  · exact source
  · exact .inr recomputed

theorem consulted_refresh (scope : Scope) (workspace : Workspace) :
    Consulted scope workspace (workspace.refresh scope) := by
  unfold refresh
  split
  · exact .refl scope workspace
  · exact ⟨_, workspace.output, _, rfl, .inr rfl⟩

/-- Texts that are written and logged. -/
theorem consulted_told (output : String) (log : Array LogEntry) :
    Consulted scope workspace { workspace with output, log } :=
  ⟨workspace.cache, output, log, rfl, .inl rfl⟩

/-- The guarantee of computations that only consult the workspace. -/
def consulting (scope : Scope) : Guarantee Workspace where
  holds := fun _ => True
  leads := Consulted scope
  refl := .refl scope
  trans := .trans

theorem keeps_searchGroups :
    (consulting scope).Keeps (searchGroups scope) (fun _ => True) := by
  refine .bind (.changing fun workspace _ => ⟨trivial, consulted_refresh scope workspace⟩) ?_
  intro _ _
  exact .bind .get fun _ _ => .pure trivial

theorem keeps_lookupFirst (name : String) :
    (consulting scope).Keeps (lookupFirst scope name) (fun _ => True) := by
  refine .ite (fun _ => .bind .get fun _ _ => .pure trivial) fun _ => ?_
  exact .bind keeps_searchGroups fun _ _ => .bind .get fun _ _ => .pure trivial

theorem keeps_resolve (name : String) :
    (consulting scope).Keeps (resolve scope name) (fun _ => True) := by
  refine .bind (keeps_lookupFirst _) fun first _ => .bind .get fun workspace _ => ?_
  simp only
  split
  · exact .pure trivial
  · exact .throw _

theorem keeps_resolveGroup (name : String) :
    (consulting scope).Keeps (resolveGroup scope name) (fun _ => True) := by
  refine .bind (keeps_resolve name) fun value _ => ?_
  split
  · exact .pure trivial
  · exact .throw _

theorem keeps_owner (name : String) :
    (consulting scope).Keeps (owner scope name) (fun _ => True) := by
  unfold owner
  simp only
  split
  · refine .bind keeps_searchGroups fun groups _ => .bind .get fun workspace _ => ?_
    split
    · exact .pure trivial
    · exact .throw _
  · exact .bind (keeps_resolveGroup _) fun _ _ => .pure trivial

theorem keeps_showGroup (name : Option String) :
    (consulting scope).Keeps (showGroup scope name) (fun _ => True) := by
  have listed (title : Workspace → String × GroupId) : (consulting scope).Keeps
      (modify fun workspace => workspace.write (workspace.listing (title workspace).1 (title workspace).2) :
        Access PUnit) (fun _ => True) :=
    .changing fun workspace _ => ⟨trivial, consulted_told _ workspace.log⟩
  cases name with
  | none => exact listed fun workspace => (rootName, workspace.root)
  | some name => exact .bind (keeps_resolveGroup name) fun id _ => listed fun _ => (name, id)

theorem lookupFirst_apply (scope : Scope) (name : String) (workspace : Workspace) :
    lookupFirst scope name workspace =
      if name = rootName then .ok (some (.group workspace.root)) workspace
      else .ok ((workspace.refresh scope).cache.groups.findSome? fun id => (workspace.group id).get? name)
        (workspace.refresh scope) := by
  unfold lookupFirst
  split
  · rfl
  · have same (id : GroupId) : (workspace.refresh scope).group id = workspace.group id := by
      rw [group, refresh_store]
      rfl
    simp only [← same]
    rfl

/-- A value that a name without dots leads to is the root or a member of a group on the search path. -/
theorem source_of_lookupFirst {name : String} {value : Value}
    (looked : lookupFirst scope name workspace = .ok (some value) after) :
    value = .group workspace.root ∨
      ∃ id ∈ (workspace.refresh scope).cache.groups, (workspace.group id).get? name = some value := by
  rw [lookupFirst_apply] at looked
  split at looked
  · cases looked
    exact .inl rfl
  · simp only [EStateM.Result.ok.injEq, List.findSome?_eq_some_iff] at looked
    obtain ⟨⟨before, id, rest, found, has, -⟩, -⟩ := looked
    refine .inr ⟨id, ?_, has⟩
    rw [found]
    exact List.mem_append_right _ List.mem_cons_self

/-- A value that a name leads to is reached through groups from where its first segment leads. -/
theorem source_of_resolve {name : String} {value : Value}
    (resolved : resolve scope name workspace = .ok value after) :
    ∃ start, lookupFirst scope ((segmentsOf name).headD "") workspace = .ok (some start) after ∧
      workspace.store.member? start (segmentsOf name).tail = some value := by
  cases looked : lookupFirst scope ((segmentsOf name).headD "") workspace with
  | error error between =>
      rw [lookupFirst_apply] at looked
      split at looked <;> cases looked
  | ok found between =>
      rw [resolve_of_lookupFirst looked] at resolved
      have unchanged : between.store = workspace.store := by
        obtain ⟨-, ⟨cache, output, log, rfl, -⟩, -⟩ := (keeps_lookupFirst _).ok trivial looked
        rfl
      cases reached : found.bind fun start => between.store.member? start (segmentsOf name).tail with
      | none =>
          rw [reached] at resolved
          cases resolved
      | some result =>
          rw [reached] at resolved
          cases resolved
          obtain ⟨start, rfl, walked⟩ := Option.bind_eq_some_iff.mp reached
          exact ⟨start, rfl, unchanged ▸ walked⟩

end GroupScript.Workspace
