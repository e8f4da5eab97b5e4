import GroupScript.Proofs.Isolation
import GroupScript.Proofs.Levels

/-!
# Termination

Calls and readings of defined variables go one level deeper, and the depth is limited.  A statement without loops on a
condition runs only statements smaller than itself on its own level.  So two numbers bound a run together, the levels
that are left and the size of the statement, and every run comes to its end, however procedures and defined variables
recurse through each other.
-/

namespace GroupScript

open Guarantee (FitAll)

/-- Whether a statement itself neither repeats something as long as a condition is true nor imports modules. -/
def Statement.isFinite : Statement → Bool
  | .loop _ _ => false
  | .importModules _ => false
  | _ => true

/-- Whether a native function is a builtin one that imports nothing. -/
def Native.isFinite : Native → Bool
  | .builtin .reload => false
  | .builtin _ => true
  | .host _ => false

/-- There are no loops on a condition and no imports. -/
def Rules.finite : Rules where
  natives := fun function => function.isFinite = true
  statements := fun statement => statement.isFinite = true

/-- There are no loops on a condition, no imports and no statements beyond a size. -/
def Rules.finiteUpTo (size : Nat) : Rules where
  natives := fun function => function.isFinite = true
  statements := fun statement => statement.isFinite = true ∧ sizeOf statement ≤ size

/-! ### Sizes of statements -/

theorem Statement.sizeOf_part {part statement : Statement} (inside : part ∈ statement.parts) :
    sizeOf part < sizeOf statement := by
  cases statement with
  | choose branches =>
      obtain ⟨body, listed, member⟩ := List.mem_flatten.mp inside
      obtain ⟨⟨condition, body⟩, branch, rfl⟩ := List.mem_map.mp listed
      have inBody : sizeOf part < sizeOf body := List.sizeOf_lt_of_mem member
      have inBranches := List.sizeOf_lt_of_mem branch
      simp only [choose.sizeOf_spec, Prod.mk.sizeOf_spec] at inBranches ⊢
      omega
  | loop condition body =>
      have inBody : sizeOf part < sizeOf body := List.sizeOf_lt_of_mem inside
      simp only [loop.sizeOf_spec]
      omega
  | iterate name items body =>
      have inBody : sizeOf part < sizeOf body := List.sizeOf_lt_of_mem inside
      simp only [iterate.sizeOf_spec]
      omega
  | attempt body handler =>
      simp only [attempt.sizeOf_spec]
      rcases List.mem_append.mp inside with member | member
      · have inBody := List.sizeOf_lt_of_mem member
        omega
      · have inHandler := List.sizeOf_lt_of_mem member
        omega
  | _ => cases inside

theorem Statement.sizeOf_within {inner statement : Statement} (within : inner.Within statement) :
    sizeOf inner ≤ sizeOf statement := by
  induction within with
  | here => exact Nat.le_refl _
  | part inside _ ih => exact Nat.le_trans ih (Nat.le_of_lt (sizeOf_part inside))
  | body member _ ih =>
      have inBody := List.sizeOf_lt_of_mem member
      simp only [procedure.sizeOf_spec]
      omega

/-- The statements of the procedures that are kept are bounded in size. -/
theorem Store.sizeOf_body {store : Store} {id : ProcedureId} {statement : Statement}
    (member : statement ∈ (store.procedure id).body) : sizeOf statement ≤ sizeOf store.procedures := by
  unfold Store.procedure at member
  rw [Array.getD_eq_getD_getElem?] at member
  cases kept : store.procedures[id]? with
  | none =>
      rw [kept] at member
      cases member
  | some procedure =>
      rw [kept] at member
      have inBody := List.sizeOf_lt_of_mem member
      have inStore := Array.sizeOf_lt_of_mem (Array.mem_of_getElem? kept)
      cases procedure
      simp only [Procedure.mk.sizeOf_spec, Option.getD_some] at inBody inStore
      omega

/-! ### Runs with a limited depth -/

/-- The guarantee that nothing leads out of a realm, that at most some levels are left below the limit of the depth, and
that the depth is as before. -/
def descending {rules : Rules} (realm : Realm rules) (limit left : Nat) : Guarantee Workspace :=
  .keepingDepth fun workspace => realm.Governs workspace ∧ limit ≤ workspace.depth + left

theorem binding_descending {rules : Rules} {realm : Realm rules} {limit left : Nat} {scope : Scope}
    (covers : realm.Covers scope) : Binding (descending realm limit left) realm.Fits Set.univ scope where
  toCarries := Realm.carries And.left
  consults := by
    rintro before after ⟨governs, deep⟩ consulted
    have governsAfter := governs.consulted covers.localGroup covers.moduleGroup consulted
    obtain ⟨cache, output, log, rfl, -⟩ := consulted
    exact ⟨⟨governsAfter, deep⟩, rfl⟩
  grows := by
    rintro workspace ⟨governs, deep⟩
    have filled : realm.Governs (workspace.newGroup {}).2 := by
      apply governs.newGroup
      intro name value found
      cases found
    exact ⟨⟨filled, deep⟩, rfl, .group (governs.newGroups _ (Nat.le_refl _))⟩
  searched := fun holds => covers.searched holds.1
  localGroup := .group covers.localGroup
  sets := fun holds fits _ fitsValue =>
    ⟨⟨holds.1.setMember _ (Realm.Governs.fits_group fits) fitsValue, holds.2⟩, rfl⟩
  removes := fun name holds fits => ⟨⟨holds.1.remove name (Realm.Governs.fits_group fits), holds.2⟩, rfl⟩

/-- An interpreter that brings statements and code to their end, as long as a number bounds the levels that are left and
the size of the statement. -/
structure Finishes {size : Nat} (realm : Realm (.finiteUpTo size)) (environment : Environment) (inner : Interpreter)
    (bound : Nat) : Prop where
  executes : ∀ {left scope statement}, realm.Covers scope → realm.Admits statement →
    sizeOf statement + left * (size + 1) < bound →
    (descending realm environment.maxDepth left).Lockstep .never (inner.execute statement scope)
      (inner.execute statement scope) (Signal.Fits realm.Fits)
  evaluates : ∀ {left scope code}, realm.Covers scope → code.Fits realm.Fits → left * (size + 1) < bound →
    (descending realm environment.maxDepth left).Lockstep .never (inner.evaluate code scope)
      (inner.evaluate code scope) realm.Fits

namespace Finishes

variable {size bound left : Nat} {realm : Realm (.finiteUpTo size)} {environment : Environment} {inner : Interpreter}
  {scope : Scope} {state : Workspace} (finishes : Finishes realm environment inner bound)

include finishes

/-- A defined variable is read on the next level. -/
theorem reads {code : Code} (covers : realm.Covers scope) (enough : left * (size + 1) ≤ bound)
    (holds : (descending realm environment.maxDepth left).holds state) (shallow : state.depth < environment.maxDepth)
    (fits : code.Fits realm.Fits) :
    (descending realm environment.maxDepth left).LockstepFrom .never state (inner.evaluate code scope).deeper
      (inner.evaluate code scope).deeper fun value _ => realm.Fits value := by
  obtain ⟨governs, deep⟩ := holds
  obtain ⟨rest, rfl⟩ : ∃ rest, left = rest + 1 := ⟨left - 1, by omega⟩
  rw [Nat.succ_mul] at enough
  have inside : (descending realm environment.maxDepth rest).holds { state with depth := state.depth + 1 } := by
    refine ⟨governs.aside _ _ _ _ (state.depth + 1), ?_⟩
    change environment.maxDepth ≤ state.depth + 1 + rest
    omega
  apply (finishes.evaluates covers fits (by omega) _ inside).deeper_keepingDepth
  rintro after _ ⟨governsAfter, _⟩
  exact ⟨governsAfter.aside _ _ _ _ state.depth, deep⟩

/-- A procedure is called on the next level. -/
theorem calls {procedure : Procedure} {arguments : List Value} {keywords : List (String × Value)}
    (enough : left * (size + 1) ≤ bound) (holds : (descending realm environment.maxDepth left).holds state)
    (admits : realm.AdmitsProcedure procedure) (fitsAll : FitAll realm.Fits arguments)
    (fitsKeywords : FitAll realm.Fits (keywords.map Prod.snd)) :
    (descending realm environment.maxDepth left).LockstepFrom .never state
      (inner.callProcedure environment procedure arguments keywords)
      (inner.callProcedure environment procedure arguments keywords) fun value _ => realm.Fits value := by
  have governs := holds.1
  have deep := holds.2
  generalize named : environment.callName procedure.name state.calls = name
  have within (shallow : state.depth < environment.maxDepth) : ∃ rest, left = rest + 1 := ⟨left - 1, by omega⟩
  apply lockstepFrom_callProcedure (descending realm environment.maxDepth (left - 1)) realm.hereditary holds named
    rfl
  · intro _ shallow
    obtain ⟨rest, rfl⟩ := within shallow
    rw [Nat.succ_mul] at enough
    have newGroup : state.size ∈ realm.groups := governs.newGroups _ (Nat.le_refl _)
    have covers : realm.Covers state.callScope := ⟨newGroup, newGroup⟩
    apply lockstep_block
    · intro statement member
      have admitted := admits.body statement member
      have small : sizeOf statement ≤ size := (admitted statement .here).1.2
      have fewer : sizeOf statement + (rest + 1 - 1) * (size + 1) < bound := by
        rw [Nat.add_sub_cancel]
        omega
      exact finishes.executes covers admitted fewer
    · refine ⟨governs.inBody name fun _ _ => fits_callGroup admits.defaults fitsAll fitsKeywords, ?_⟩
      change environment.maxDepth ≤ state.depth + 1 + rest
      omega
  · rintro _ shallow after output log ⟨governsAfter, _⟩ (same : after.depth = state.depth + 1)
    obtain ⟨rest, rfl⟩ := within shallow
    refine ⟨⟨governsAfter.afterCall name output log, ?_⟩, ?_⟩
    · change environment.maxDepth ≤ after.depth - 1 + (rest + 1)
      omega
    · change after.depth - 1 = state.depth
      omega

omit finishes in
theorem callsNative {function : Native} {arguments : List Value} (covers : realm.Covers scope)
    (fits : realm.Fits (.native function)) (harmful : function.isHarmless = false) :
    (descending realm environment.maxDepth left).Lockstep .never (inner.callNative environment scope function arguments)
      (inner.callNative environment scope function arguments) realm.Fits := by
  cases fits with
  | plain isPlain => cases isPlain
  | native isFinite =>
      -- Of the builtin functions that do harm only one imports nothing, and it deletes groups.
      cases function with
      | host name => cases isFinite
      | builtin builtin =>
          cases builtin with
          | delGroup =>
              exact .ofAccess (.bind .get fun _ _ => (binding_descending covers).keeps_runDelGroup arguments)
          | reload => cases isFinite
          | _ => cases harmful

theorem concord (covers : realm.Covers scope) (enough : left * (size + 1) ≤ bound) :
    Concord (descending realm environment.maxDepth left) realm.Fits .never environment inner inner scope where
  toFooting := (binding_descending covers).toFooting
  reads := by
    intro state id holds fits shallow
    exact finishes.reads covers enough holds shallow ((binding_descending covers).code holds fits)
  callsProcedure := by
    intro state id arguments keywords holds fits fitsAll fitsKeywords
    cases fits with
    | plain isPlain => cases isPlain
    | procedure inside => exact finishes.calls enough holds (holds.1.procedures id inside) fitsAll fitsKeywords
  callsNative := fun fits harmful _ => callsNative covers fits harmful

/-- A statement comes to its end if what is smaller and what is on the next level does. -/
theorem lockstep_executeWith {statement : Statement} {repetitions : Nat} (covers : realm.Covers scope)
    (admits : realm.Admits statement) (enough : sizeOf statement + left * (size + 1) ≤ bound) :
    (descending realm environment.maxDepth left).Lockstep .never
      (inner.executeWith environment repetitions statement scope)
      (inner.executeWith environment repetitions statement scope) (Signal.Fits realm.Fits) := by
  have binding : Binding (descending realm environment.maxDepth left) realm.Fits Set.univ scope :=
    binding_descending covers
  have accord : Accord (descending realm environment.maxDepth left) realm.Fits
      (fun allowed => realm.Admits allowed ∧ sizeOf allowed + left * (size + 1) ≤ bound) .never environment inner inner
      scope repetitions repetitions := by
    refine { finishes.concord covers (by omega) with
      loops := ?_, bindsItem := ?_, assigns := ?_, defines := ?_, definesProcedure := ?_, deletes := ?_, codes := ?_
      parts := ?_, imports := ?_ }
    · exact fun allowed => by cases (allowed.1 _ .here).1.1
    · exact fun _ fits => binding.lockstep_bindItem trivial fits
    · exact fun _ _ fits => binding.lockstep_assignValue (fun _ _ => trivial) fits
    · intro name code allowed
      apply binding.lockstep_define fun _ _ => trivial
      rintro state ⟨governs, deep⟩
      have fits : code.Fits realm.Fits := (allowed.1 _ .here).2 code List.mem_cons_self
      exact ⟨⟨governs.newDefinition fits, deep⟩, rfl, .defined (governs.newDefinitions _ (Nat.le_refl _))⟩
    · intro signature doc body defaults allowed fits
      apply binding.lockstep_bindProcedure fun _ _ => trivial
      rintro state ⟨governs, deep⟩
      have admitsBody := governs.newProcedure
        (⟨fits, Realm.admits_body allowed.1⟩ : realm.AdmitsProcedure ⟨signature.name, signature.params, defaults, doc, body⟩)
      exact ⟨⟨admitsBody, deep⟩, rfl, .procedure (governs.newProcedures _ (Nat.le_refl _))⟩
    · exact fun _ => binding.lockstep_deleteAll _
    · exact fun allowed => (allowed.1 _ .here).2
    · rintro statement ⟨admits, small⟩ part inside
      have smaller := Statement.sizeOf_part inside
      exact finishes.executes covers (Realm.admits_part admits inside) (by omega)
    · exact fun allowed => by cases (allowed.1 _ .here).1.1
  exact accord.lockstep_executeWith ⟨admits, enough⟩

end Finishes

/-- The interpreter has enough levels if they exceed the bound. -/
theorem finishes_ofLevels {size : Nat} (realm : Realm (.finiteUpTo size)) (environment : Environment) (levels : Nat) :
    Finishes realm environment (.ofLevels environment levels) levels := by
  induction levels with
  | zero =>
      constructor
      · intro left scope statement _ _ enough
        exact absurd enough (Nat.not_lt_zero _)
      · intro left scope code _ _ enough
        exact absurd enough (Nat.not_lt_zero _)
  | succ levels ih =>
      constructor
      · intro left scope statement covers admits enough
        exact ih.lockstep_executeWith covers admits (Nat.le_of_lt_succ enough)
      · intro left scope code covers fits enough
        exact (ih.concord covers (Nat.le_of_lt_succ enough)).lockstep_evaluateWith fits

/-- What a statement is given: the groups of its scope and its constants. -/
def GivenToStatement (scope : Scope) (statement : Statement) (value : Value) : Prop :=
  value = .group scope.localGroup ∨ value = .group scope.moduleGroup ∨ statement.Mentions value

/-- A statement without loops on a condition and without imports comes to its end, with a signal or an error, if there are
none in the procedures that can be come by either and all native functions are builtin ones that import nothing.  From some
number of levels on the interpreter gives that end. -/
theorem execute_terminates {environment : Environment} {scope : Scope} {statement : Statement} {workspace : Workspace}
    (rooted : workspace.root < workspace.size)
    (finite : ∀ inner : Statement, inner.Within statement → inner.isFinite = true)
    (tame : ∀ value, Held workspace (GivenToStatement scope statement) value → Rules.finite.Tames workspace value) :
    ∃ levels after, Ends ((Interpreter.ofLevels environment levels).execute statement scope) workspace after ∧
      ∀ more, levels ≤ more → (Interpreter.ofLevels environment more).execute statement scope workspace =
        (Interpreter.ofLevels environment levels).execute statement scope workspace := by
  let given := GivenToStatement scope statement
  let size := sizeOf statement + sizeOf workspace.store.procedures
  let realm := (Rules.finiteUpTo size).realm workspace given
  have tameUpTo : ∀ value, Held workspace given value → (Rules.finiteUpTo size).Tames workspace value := by
    intro value held
    have follows := tame value held
    cases value with
    | procedure id =>
        intro outer member inner within
        have small := Nat.le_trans (Statement.sizeOf_within within) (Store.sizeOf_body member)
        exact ⟨follows outer member inner within, Nat.le_trans small (Nat.le_add_left _ _)⟩
    | native function => exact follows
    | _ => trivial
  have covers : realm.Covers scope := ⟨.inl (.given (.inl rfl)), .inl (.given (.inr (.inl rfl)))⟩
  have admits : realm.Admits statement := by
    intro inner within
    have small := Nat.le_trans (Statement.sizeOf_within within) (Nat.le_add_right _ (sizeOf workspace.store.procedures))
    refine ⟨⟨finite inner within, small⟩, fun code held value pushed => ?_⟩
    exact fits_of_held tameUpTo value (.given (.inr (.inr ⟨inner, within, code, held, pushed⟩)))
  have holds : (descending realm environment.maxDepth environment.maxDepth).holds workspace :=
    ⟨governs_realm tameUpTo rooted, Nat.le_add_left _ _⟩
  have finishes := finishes_ofLevels realm environment (sizeOf statement + environment.maxDepth * (size + 1) + 1)
  obtain ⟨after, ended⟩ := (finishes.executes covers admits (Nat.lt_succ_self _) workspace holds).exists_ends
  exact ⟨_, after, ended, fun more enough => execute_of_ends enough ended⟩

/-- A call of the procedure that calls itself without end. -/
def callDescent : Statement :=
  .evaluate ⟨[.load "f", .push (.int 7), .call 1 []], "f(7)"⟩ false

theorem within_callDescent {inner : Statement} (within : inner.Within callDescent) : inner = callDescent := by
  cases within with
  | here => rfl
  | part inside => cases inside

/-- A call of a procedure that calls itself up to the limit of the depth comes to its end. -/
theorem execute_terminates_descent :
    ∃ levels after,
      Ends ((Interpreter.ofLevels { maxDepth := 100 } levels).execute callDescent ⟨0, 0, 0⟩) descentWorkspace after ∧
      ∀ more, levels ≤ more → (Interpreter.ofLevels { maxDepth := 100 } more).execute callDescent ⟨0, 0, 0⟩ descentWorkspace =
        (Interpreter.ofLevels { maxDepth := 100 } levels).execute callDescent ⟨0, 0, 0⟩ descentWorkspace := by
  have given (value : Value) (isGiven : GivenToStatement ⟨0, 0, 0⟩ callDescent value) :
      value.isPlain = true ∨ ∃ id, value = .group id := by
    rcases isGiven with rfl | rfl | ⟨inner, within, code, held, pushed⟩
    · exact .inr ⟨0, rfl⟩
    · exact .inr ⟨0, rfl⟩
    · rw [within_callDescent within] at held
      rw [List.mem_singleton.mp held] at pushed
      have constant : value = .int 7 := by simpa using pushed
      rw [constant]
      exact .inl rfl
  apply execute_terminates
  · decide
  · intro inner within
    rw [within_callDescent within]
    rfl
  · intro value held
    rcases held_descentWorkspace_of_given given held with ⟨-, isPlain⟩ | ⟨id, rfl⟩ | rfl
    · cases value with
      | list items => cases isPlain
      | group id => cases isPlain
      | procedure id => cases isPlain
      | native function => cases isPlain
      | _ => trivial
    · trivial
    · intro statement member inner within
      rw [within_descent member within]
      have listed : statement ∈ descent.body := member
      simp only [descent, List.mem_cons, List.not_mem_nil, or_false] at listed
      rcases listed with rfl | rfl
      · rfl
      · rfl

end GroupScript
