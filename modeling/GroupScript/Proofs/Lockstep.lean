import GroupScript.Proofs.Guarantee

/-!
# Computations in lockstep

Two computations run in lockstep if the second one ends as the first one does: from every state with the invariant of a
guarantee, with the same value or the same error, in the same state, which is one that the guarantee allows.  If the
first one is cut off, then one of three things is known: that this cannot happen, that the second one is cut off in the
same state, or nothing.  A computation in lockstep with itself is one that keeps the guarantee, and sequencing,
branching and catching errors keep lockstep.
-/

namespace GroupScript

/-- What is known of two computations when the first one is cut off. -/
inductive Cutoff
  /-- The first one is never cut off. -/
  | never
  /-- The second one is cut off in the same state. -/
  | alike
  | unknown

/-- What a kind of cut-off tells about the second computation. -/
def Cutoff.Tells : Cutoff → Prop → Prop
  | .never, _ => False
  | .alike, same => same
  | .unknown, _ => True

theorem Cutoff.Tells.imp {cutoff : Cutoff} {same other : Prop} (tells : cutoff.Tells same) (implies : same → other) :
    cutoff.Tells other := by
  cases cutoff with
  | never => exact tells
  | alike => exact implies tells
  | unknown => trivial

namespace Guarantee

variable {σ α β : Type} {guarantee : Guarantee σ} {cutoff : Cutoff}

/-- From one state, a computation ends as another one does, with a value and a state that are related. -/
structure LockstepFrom (guarantee : Guarantee σ) (cutoff : Cutoff) (before : σ) (first second : Run σ α)
    (post : α → σ → Prop) : Prop where
  ok : ∀ {value after}, first before = .ok value after →
    second before = .ok value after ∧ guarantee.holds after ∧ guarantee.leads before after ∧ post value after
  failure : ∀ {error after}, first before = .error (.failure error) after →
    second before = .error (.failure error) after ∧ guarantee.holds after ∧ guarantee.leads before after
  exhausted : ∀ {after}, first before = .error .exhausted after →
    cutoff.Tells (second before = .error .exhausted after)

/-- From every state with the invariant, a computation ends as another one does, with a value that has a property. -/
def Lockstep (guarantee : Guarantee σ) (cutoff : Cutoff) (first second : Run σ α) (property : α → Prop) : Prop :=
  ∀ before, guarantee.holds before → guarantee.LockstepFrom cutoff before first second fun value _ => property value

namespace LockstepFrom

variable {before : σ} {first second : Run σ α} {post : α → σ → Prop}

/-- Both computations are known to end with a value. -/
theorem ends {value : α} {after : σ} (finished : first before = .ok value after)
    (finishedToo : second before = .ok value after) (holds : guarantee.holds after)
    (leads : guarantee.leads before after) (has : post value after) :
    guarantee.LockstepFrom cutoff before first second post where
  ok := by
    intro result other ended
    rw [finished] at ended
    cases ended
    exact ⟨finishedToo, holds, leads, has⟩
  failure := by
    intro error other ended
    rw [finished] at ended
    cases ended
  exhausted := by
    intro other ended
    rw [finished] at ended
    cases ended

/-- Both computations are known to fail. -/
theorem fails {error : Error} {after : σ} (failed : first before = .error (.failure error) after)
    (failedToo : second before = .error (.failure error) after) (holds : guarantee.holds after)
    (leads : guarantee.leads before after) :
    guarantee.LockstepFrom cutoff before first second post where
  ok := by
    intro result other ended
    rw [failed] at ended
    cases ended
  failure := by
    intro found other ended
    rw [failed] at ended
    cases ended
    exact ⟨failedToo, holds, leads⟩
  exhausted := by
    intro other ended
    rw [failed] at ended
    cases ended

/-- The first computation is known to be cut off. -/
theorem cut {after : σ} (halted : first before = .error .exhausted after)
    (tells : cutoff.Tells (second before = .error .exhausted after)) :
    guarantee.LockstepFrom cutoff before first second post where
  ok := by
    intro result other ended
    rw [halted] at ended
    cases ended
  failure := by
    intro error other ended
    rw [halted] at ended
    cases ended
  exhausted := by
    intro other ended
    rw [halted] at ended
    cases ended
    exact tells

theorem pure {value : α} (holds : guarantee.holds before) (has : post value before) :
    guarantee.LockstepFrom cutoff before (Pure.pure value) (Pure.pure value) post :=
  ends rfl rfl holds (guarantee.refl before) has

theorem fail (error : Error) (holds : guarantee.holds before) :
    guarantee.LockstepFrom cutoff before (GroupScript.fail error) (GroupScript.fail error) post :=
  fails rfl rfl holds (guarantee.refl before)

theorem bind {next nextToo : α → Run σ β} {last : β → σ → Prop}
    (starts : guarantee.LockstepFrom cutoff before first second post)
    (continues : ∀ value after, guarantee.holds after → post value after →
      guarantee.LockstepFrom cutoff after (next value) (nextToo value) last) :
    guarantee.LockstepFrom cutoff before (first >>= next) (second >>= nextToo) last where
  ok := by
    intro result after finished
    obtain ⟨value, between, ran, finished⟩ := bind_eq_ok finished
    obtain ⟨ranToo, holds, leads, has⟩ := starts.ok ran
    obtain ⟨finishedToo, holdsAfter, leadsOn, hasToo⟩ := (continues value between holds has).ok finished
    rw [bind_apply, ranToo]
    exact ⟨finishedToo, holdsAfter, guarantee.trans leads leadsOn, hasToo⟩
  failure := by
    intro error after failed
    rcases bind_eq_error failed with failed | ⟨value, between, ran, failed⟩
    · obtain ⟨failedToo, holds, leads⟩ := starts.failure failed
      rw [bind_apply, failedToo]
      exact ⟨rfl, holds, leads⟩
    · obtain ⟨ranToo, holds, leads, has⟩ := starts.ok ran
      obtain ⟨failedToo, holdsAfter, leadsOn⟩ := (continues value between holds has).failure failed
      rw [bind_apply, ranToo]
      exact ⟨failedToo, holdsAfter, guarantee.trans leads leadsOn⟩
  exhausted := by
    intro after halted
    rcases bind_eq_error halted with halted | ⟨value, between, ran, halted⟩
    · apply (starts.exhausted halted).imp
      intro haltedToo
      rw [bind_apply, haltedToo]
    · obtain ⟨ranToo, holds, -, has⟩ := starts.ok ran
      apply ((continues value between holds has).exhausted halted).imp
      intro haltedToo
      rw [bind_apply, ranToo]
      exact haltedToo

theorem reading {next nextToo : σ → Run σ α}
    (continues : guarantee.LockstepFrom cutoff before (next before) (nextToo before) post) :
    guarantee.LockstepFrom cutoff before (get >>= next) (get >>= nextToo) post :=
  ⟨continues.ok, continues.failure, continues.exhausted⟩

/-- After a first step two computations may be in lockstep under another guarantee, if the states it leads to are good for
this one. -/
theorem entering {inside : Guarantee σ} {step : Run σ β} {next nextToo : β → Run σ α} {value : β} {entered : σ}
    (entry : step before = .ok value entered)
    (lockstep : inside.LockstepFrom cutoff entered (next value) (nextToo value) post)
    (back : ∀ {after}, inside.holds after → inside.leads entered after →
      guarantee.holds after ∧ guarantee.leads before after) :
    guarantee.LockstepFrom cutoff before (step >>= next) (step >>= nextToo) post where
  ok := by
    intro result after finished
    rw [bind_apply, entry] at finished ⊢
    obtain ⟨finishedToo, holds, leads, has⟩ := lockstep.ok finished
    obtain ⟨holdsHere, leadsHere⟩ := back holds leads
    exact ⟨finishedToo, holdsHere, leadsHere, has⟩
  failure := by
    intro error after failed
    rw [bind_apply, entry] at failed ⊢
    obtain ⟨failedToo, holds, leads⟩ := lockstep.failure failed
    exact ⟨failedToo, back holds leads⟩
  exhausted := by
    intro after halted
    rw [bind_apply, entry] at halted ⊢
    exact lockstep.exhausted halted

theorem imp {other : α → σ → Prop} (lockstep : guarantee.LockstepFrom cutoff before first second post)
    (weaker : ∀ value after, post value after → other value after) :
    guarantee.LockstepFrom cutoff before first second other where
  ok := by
    intro value after finished
    obtain ⟨finishedToo, holds, leads, has⟩ := lockstep.ok finished
    exact ⟨finishedToo, holds, leads, weaker value after has⟩
  failure := lockstep.failure
  exhausted := lockstep.exhausted

/-- Only what the first computation does from the state matters. -/
theorem of_eq {other : Run σ α} (same : other before = first before)
    (lockstep : guarantee.LockstepFrom cutoff before first second post) :
    guarantee.LockstepFrom cutoff before other second post where
  ok := fun finished => lockstep.ok (same.symm.trans finished)
  failure := fun failed => lockstep.failure (same.symm.trans failed)
  exhausted := fun halted => lockstep.exhausted (same.symm.trans halted)

/-- The first computation keeps the guarantee. -/
theorem keeps (lockstep : guarantee.LockstepFrom cutoff before first second post) :
    guarantee.KeepsFrom before first post where
  ok := fun finished => (lockstep.ok finished).2
  error := by
    intro reason after failed final
    cases reason with
    | failure error => exact (lockstep.failure failed).2
    | exhausted => exact absurd rfl final

/-- A computation that keeps a guarantee is in lockstep with itself, if it may be cut off. -/
theorem of_keeps (may : cutoff ≠ .never) (keeps : guarantee.KeepsFrom before first post) :
    guarantee.LockstepFrom cutoff before first first post where
  ok := fun finished => ⟨finished, keeps.ok finished⟩
  failure := fun failed => ⟨failed, keeps.error failed Halt.noConfusion⟩
  exhausted := by
    intro after halted
    cases cutoff with
    | never => exact absurd rfl may
    | alike => exact halted
    | unknown => trivial

/-- Where the first computation is never cut off, it comes to its end. -/
theorem exists_ends (lockstep : guarantee.LockstepFrom .never before first second post) :
    ∃ after, Ends first before after := by
  cases ran : first before with
  | ok value after => exact ⟨after, .inl ⟨value, ran⟩⟩
  | error halt after =>
      cases halt with
      | failure error => exact ⟨after, .inr ⟨error, ran⟩⟩
      | exhausted => exact (lockstep.exhausted ran).elim

/-- Where cut-offs are alike, the two computations have one result. -/
theorem eq (lockstep : guarantee.LockstepFrom .alike before first second post) : first before = second before := by
  cases ran : first before with
  | ok value after => exact (lockstep.ok ran).1.symm
  | error halt after =>
      cases halt with
      | failure error => exact (lockstep.failure ran).1.symm
      | exhausted => exact Eq.symm (lockstep.exhausted ran)

/-- An end of the first computation is one of the second. -/
theorem of_ends {after : σ} (lockstep : guarantee.LockstepFrom cutoff before first second post)
    (ended : Ends first before after) : second before = first before := by
  rcases ended with ⟨value, finished⟩ | ⟨error, failed⟩
  · rw [finished, (lockstep.ok finished).1]
  · rw [failed, (lockstep.failure failed).1]

end LockstepFrom

namespace Lockstep

variable {first second : Run σ α} {property : α → Prop}

theorem pure {value : α} (has : property value) :
    guarantee.Lockstep cutoff (Pure.pure value) (Pure.pure value) property :=
  fun _ holds => .pure holds has

theorem fail (error : Error) :
    guarantee.Lockstep cutoff (GroupScript.fail error) (GroupScript.fail error) property :=
  fun _ holds => .fail error holds

theorem bind {next nextToo : α → Run σ β} {last : β → Prop} (starts : guarantee.Lockstep cutoff first second property)
    (continues : ∀ value, property value → guarantee.Lockstep cutoff (next value) (nextToo value) last) :
    guarantee.Lockstep cutoff (first >>= next) (second >>= nextToo) last :=
  fun before holds => (starts before holds).bind fun value after holdsAfter has => continues value has after holdsAfter

/-- What follows a failure is never reached. -/
theorem failed (error : Error) (next nextToo : α → Run σ β) {property : β → Prop} :
    guarantee.Lockstep cutoff (GroupScript.fail error >>= next) (GroupScript.fail error >>= nextToo) property :=
  bind (fail error : guarantee.Lockstep cutoff _ _ fun _ => False) fun _ => False.elim

theorem reading {next nextToo : σ → Run σ α}
    (continues : ∀ before, guarantee.holds before →
      guarantee.LockstepFrom cutoff before (next before) (nextToo before) fun value _ => property value) :
    guarantee.Lockstep cutoff (get >>= next) (get >>= nextToo) property :=
  fun before holds => .reading (continues before holds)

theorem ofResult {result : Except Error α} (has : ∀ value, result = .ok value → property value) :
    guarantee.Lockstep cutoff (GroupScript.ofResult result) (GroupScript.ofResult result) property := by
  cases result with
  | ok value => exact pure (has value rfl)
  | error error => exact fail error

theorem ite {test : Prop} [Decidable test] {yes no yesToo noToo : Run σ α}
    (takesYes : test → guarantee.Lockstep cutoff yes yesToo property)
    (takesNo : ¬test → guarantee.Lockstep cutoff no noToo property) :
    guarantee.Lockstep cutoff (if test then yes else no) (if test then yesToo else noToo) property := by
  by_cases holds : test
  · rw [if_pos holds, if_pos holds]
    exact takesYes holds
  · rw [if_neg holds, if_neg holds]
    exact takesNo holds

theorem modifyGet {change : σ → α × σ}
    (step : ∀ state, guarantee.holds state →
      guarantee.holds (change state).2 ∧ guarantee.leads state (change state).2 ∧ property (change state).1) :
    guarantee.Lockstep cutoff (MonadState.modifyGet change) (MonadState.modifyGet change) property := by
  intro before holds
  obtain ⟨holdsAfter, leads, has⟩ := step before holds
  exact .ends rfl rfl holdsAfter leads has

/-- What a change gives need not matter. -/
theorem making {change : σ → α × σ}
    (step : ∀ state, guarantee.holds state →
      guarantee.holds (change state).2 ∧ guarantee.leads state (change state).2) :
    guarantee.Lockstep cutoff (MonadState.modifyGet change) (MonadState.modifyGet change) fun _ => True :=
  modifyGet fun state holds => ⟨(step state holds).1, (step state holds).2, trivial⟩

theorem changing {change : σ → σ}
    (step : ∀ state, guarantee.holds state → guarantee.holds (change state) ∧ guarantee.leads state (change state)) :
    guarantee.Lockstep cutoff (modify change : Run σ PUnit) (modify change) fun _ => True :=
  making step

theorem keeps (lockstep : guarantee.Lockstep cutoff first second property) : guarantee.Keeps first property :=
  .everywhere fun before holds => (lockstep before holds).keeps

theorem of_keeps (may : cutoff ≠ .never) (keeps : guarantee.Keeps first property) :
    guarantee.Lockstep cutoff first first property :=
  fun _ holds => .of_keeps may (keeps.here holds)

end Lockstep

/-! ### Actions -/

section Actions

variable {guarantee : Guarantee Workspace} {property : α → Prop}

/-- What only works on the workspace is never cut off. -/
theorem LockstepFrom.ofAccess {access : Access α} {before : Workspace} {post : α → Workspace → Prop}
    (keeps : guarantee.KeepsFrom before access post) :
    guarantee.LockstepFrom cutoff before (Action.ofAccess access) (Action.ofAccess access) post := by
  cases ran : access before with
  | ok value after =>
      have finished : Action.ofAccess access before = .ok value after := by rw [Action.ofAccess, ran]
      obtain ⟨holds, leads, has⟩ := keeps.ok ran
      exact .ends finished finished holds leads has
  | error error after =>
      have failed : Action.ofAccess access before = .error (.failure error) after := by rw [Action.ofAccess, ran]
      obtain ⟨holds, leads⟩ := keeps.error ran trivial
      exact .fails failed failed holds leads

theorem Lockstep.ofAccess {access : Access α} (keeps : guarantee.Keeps access property) :
    guarantee.Lockstep cutoff (Action.ofAccess access) (Action.ofAccess access) property :=
  fun _ holds => .ofAccess (keeps.here holds)

theorem LockstepFrom.caught {first second : Action α} {before : Workspace} {post : α → Workspace → Prop}
    (lockstep : guarantee.LockstepFrom cutoff before first second post) :
    guarantee.LockstepFrom cutoff before first.caught second.caught
      (fun result after => ∀ value, result = .ok value → post value after) := by
  cases ran : first before with
  | ok value after =>
      obtain ⟨ranToo, holds, leads, has⟩ := lockstep.ok ran
      apply ends (by rw [Action.caught, ran]) (by rw [Action.caught, ranToo]) holds leads
      rintro _ ⟨⟩
      exact has
  | error halt after =>
      cases halt with
      | failure error =>
          obtain ⟨ranToo, holds, leads⟩ := lockstep.failure ran
          apply ends (by rw [Action.caught, ran]) (by rw [Action.caught, ranToo]) holds leads
          rintro _ ⟨⟩
      | exhausted =>
          apply cut (by rw [Action.caught, ran])
          apply (lockstep.exhausted ran).imp
          intro ranToo
          rw [Action.caught, ranToo]

theorem Lockstep.caught {first second : Action α} (lockstep : guarantee.Lockstep cutoff first second property) :
    guarantee.Lockstep cutoff first.caught second.caught (fun result => ∀ value, result = .ok value → property value) :=
  fun before holds => (lockstep before holds).caught

/-- One level deeper two actions may be in lockstep under another guarantee, if this one allows what is left of its
states when the level ends. -/
theorem LockstepFrom.deeper {inside : Guarantee Workspace} {first second : Action α} {before : Workspace}
    {post : α → Workspace → Prop}
    (lockstep : inside.LockstepFrom cutoff { before with depth := before.depth + 1 } first second post)
    (back : ∀ {after}, inside.holds after → inside.leads { before with depth := before.depth + 1 } after →
      guarantee.holds { after with depth := after.depth - 1 } ∧
        guarantee.leads before { after with depth := after.depth - 1 }) :
    guarantee.LockstepFrom cutoff before first.deeper second.deeper (fun value _ => ∃ after, post value after) := by
  cases ran : first { before with depth := before.depth + 1 } with
  | ok value after =>
      obtain ⟨ranToo, holds, leads, has⟩ := lockstep.ok ran
      obtain ⟨holdsBack, leadsBack⟩ := back holds leads
      exact ends (by rw [Action.deeper, ran]) (by rw [Action.deeper, ranToo]) holdsBack leadsBack ⟨after, has⟩
  | error halt after =>
      cases halt with
      | failure error =>
          obtain ⟨ranToo, holds, leads⟩ := lockstep.failure ran
          obtain ⟨holdsBack, leadsBack⟩ := back holds leads
          exact fails (by rw [Action.deeper, ran]) (by rw [Action.deeper, ranToo]) holdsBack leadsBack
      | exhausted =>
          apply cut (by rw [Action.deeper, ran])
          apply (lockstep.exhausted ran).imp
          intro ranToo
          rw [Action.deeper, ranToo]

/-- The guarantee that an invariant holds and that the depth is as before. -/
def keepingDepth (invariant : Workspace → Prop) : Guarantee Workspace where
  holds := invariant
  leads := fun before after => after.depth = before.depth
  refl := fun _ => rfl
  trans := fun first second => second.trans first

/-- One level deeper the depth is one more, and at the end of the level it is as before. -/
theorem LockstepFrom.deeper_keepingDepth {inside outside : Workspace → Prop} {first second : Action α}
    {before : Workspace}
    (lockstep : (keepingDepth inside).LockstepFrom cutoff { before with depth := before.depth + 1 } first second
      fun value _ => property value)
    (back : ∀ {after}, after.depth = before.depth + 1 → inside after → outside { after with depth := before.depth }) :
    (keepingDepth outside).LockstepFrom cutoff before first.deeper second.deeper fun value _ => property value := by
  apply LockstepFrom.imp
  · apply lockstep.deeper
    intro after holds (same : after.depth = before.depth + 1)
    have left : after.depth - 1 = before.depth := by omega
    rw [left]
    exact ⟨back same holds, rfl⟩
  · rintro value _ ⟨_, has⟩
    exact has

end Actions

end Guarantee

end GroupScript
