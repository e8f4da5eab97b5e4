import GroupScript.Proofs.Prompts

/-!
# Replayed lines

The lines of a text may wait in a queue, or a reader may give them one at a time, when they are asked for.  Compilation
sees no difference but for the name of the file: a line that the reader is asked for is the one that the queue would
have given, and what is left of a line after a semicolon stands in front of both.
-/

namespace GroupScript

namespace Input

/-- An input at rest with the lines of a text in its queue. -/
def queued (input : Input) (text : List Char) (file : String) : Input :=
  { input.clear with reader := none }.pushText text file

/-- An input at rest with a reader that gives the lines of a text. -/
def replaying (input : Input) (text : List Char) : Input :=
  { input.clear with reader := some { lines := Text.lines text }, linesGiven := 0 }

/-- The first input has all lines in its queue.  Of the second, some are in the queue and the others come from its
reader. -/
structure Replays (first second : Input) : Prop where
  noReader : first.reader = none
  split : ∃ waiting lines file, first.queue = waiting ++ numbered file (second.linesGiven + 1) lines ∧
    second.queue = waiting.map (Line.relocated (.toFile readerFile)) ∧ second.reader = some { lines }

theorem replays_replaying (input : Input) (text : List Char) (file : String) :
    Replays (input.queued text file) (input.replaying text) :=
  ⟨rfl, [], Text.lines text, file, rfl, rfl, rfl⟩

theorem nextLine_of_reader {input : Input} {reader : Reader} (empty : input.queue = [])
    (given : input.reader = some reader) (continued : Bool) :
    input.nextLine continued = input.ask reader continued := by
  simp [nextLine, empty, given]

theorem abreast_replays : Abreast (.toFile readerFile) Replays where
  nextLine := by
    rintro first second ⟨noReader, waiting, lines, file, queued, queuedToo, given⟩ continued
    cases waiting with
    | cons line waiting =>
        rw [nextLine_of_queue queued, nextLine_of_queue queuedToo]
        exact ⟨_, rfl, noReader, waiting, lines, file, rfl, rfl, given⟩
    | nil =>
        rw [nextLine_of_reader queuedToo given]
        cases lines with
        | nil =>
            -- Both inputs have ended and stay so, however often the reader is asked again.
            rw [nextLine_of_empty noReader queued]
            exact ⟨_, rfl, noReader, [], [], file, queued, queuedToo, rfl⟩
        | cons text lines =>
            rw [nextLine_of_queue queued]
            exact ⟨_, rfl, noReader, [], lines, file, rfl, queuedToo, rfl⟩
  push := by
    rintro first second ⟨noReader, waiting, lines, file, queued, queuedToo, given⟩ line
    exact ⟨noReader, line :: waiting, lines, file, by rw [queued]; rfl, by rw [queuedToo]; rfl, given⟩

end Input

namespace Compile

/-- Reading a queue side by side with a reader that gives the same lines. -/
def replayPace : Pace :=
  .ofAbreast Input.abreast_replays (fun replays => ⟨replays.noReader, replays.split⟩)
    fun replays => ⟨replays.noReader, replays.split⟩

/-- The desk before each of a series of calls.  Between two calls something may be done in the workspace with the
statement that was compiled, and an error is passed over. -/
def deskAt (scope : Scope) (between : Option Statement → Workspace → Workspace) (desk : Desk) : Nat → Desk
  | 0 => desk
  | count + 1 =>
      match call scope (deskAt scope between desk count) with
      | (.ok statement, after) => { after with workspace := between statement after.workspace }
      | (.error _, after) => after

variable {pace : Pace} {scope : Scope} {between : Option Statement → Workspace → Workspace} {first second : Desk}

/-- Calls on two inputs that end together give the same, but for the places of errors. -/
theorem call_beside (endsToo : pace.endsToo) (beside : pace.Beside first second) :
    (call scope second).1 = (call scope first).1.mapError (Halt.relocated pace.move) ∧
      pace.Beside (call scope first).2 (call scope second).2 := by
  cases ran : next scope first with
  | error halt after =>
      obtain ⟨error, other, rfl, ranToo, besideAfter⟩ := pace.next_error endsToo beside ran
      rw [call_of_error ran, call_of_error ranToo]
      exact ⟨rfl, besideAfter⟩
  | ok made after =>
      have copied : ∃ other, next scope second = .ok made other ∧ pace.Beside after other := by
        cases made with
        | some statement =>
            obtain ⟨other, ranToo, besideAfter, -⟩ := pace.next_ok beside ran
            exact ⟨other, ranToo, besideAfter⟩
        | none =>
            obtain ⟨ended, same⟩ := ended_of_next ran
            obtain ⟨other, endedToo, related⟩ := pace.next_none endsToo beside.input ended
            exact ⟨_, next_of_ended endedToo, related, beside.workspace.trans same.symm⟩
      obtain ⟨other, ranToo, besideAfter⟩ := copied
      rw [call_of_ok ran, call_of_ok ranToo]
      exact ⟨rfl, besideAfter⟩

theorem beside_deskAt (endsToo : pace.endsToo) (beside : pace.Beside first second) (count : Nat) :
    pace.Beside (deskAt scope between first count) (deskAt scope between second count) := by
  induction count with
  | zero => exact beside
  | succ count ih =>
      obtain ⟨same, besideAfter⟩ := @call_beside _ scope _ _ endsToo ih
      rw [deskAt, deskAt]
      generalize call scope (deskAt scope between first count) = given at same besideAfter ⊢
      generalize call scope (deskAt scope between second count) = givenToo at same besideAfter ⊢
      obtain ⟨result, after⟩ := given
      obtain ⟨_, other⟩ := givenToo
      cases same
      cases result with
      | error halt => exact besideAfter
      | ok made => exact ⟨besideAfter.input, congrArg (between made) besideAfter.workspace⟩

theorem input_deskAt (desk : Desk) (count : Nat) :
    (deskAt scope between desk (count + 1)).input = (call scope (deskAt scope between desk count)).2.input := by
  rw [deskAt]
  rcases call scope (deskAt scope between desk count) with ⟨_ | made, after⟩
  · rfl
  · rfl

/-- Between calls no block is open, and the prompts stay as they are. -/
theorem asks_deskAt {desk : Desk} (outside : desk.input.blockDepth = 0) (count : Nat) :
    ∃ prompts, desk.input.Asks prompts (deskAt scope between desk count).input := by
  induction count with
  | zero => exact ⟨[], .refl desk.input⟩
  | succ count ih =>
      obtain ⟨prompts, asks⟩ := ih
      rw [input_deskAt]
      exact ⟨_, asks.trans (asks_call (asks.blockDepth.trans outside))⟩

/-- A reader that gives the lines of a text and a queue that holds them are compiled alike.  Call by call there is the
same statement, the same end, or the same error, with the same line number and another file name.  The reader is asked
for the first line of each statement outside all blocks under the primary prompt, and for all other lines under the
continuation prompt. -/
theorem replaying_agrees_with_queued (scope : Scope) (between : Option Statement → Workspace → Workspace)
    (input : Input) (workspace : Workspace) (text : List Char) (file : String) (count : Nat) :
    let queued := deskAt scope between ⟨input.queued text file, workspace⟩ count
    let replaying := deskAt scope between ⟨input.replaying text, workspace⟩ count
    (call scope queued).1 ≠ .error .exhausted ∧
    (call scope replaying).1 = (call scope queued).1.mapError (Halt.relocated (.toFile readerFile)) ∧
    (call scope replaying).2.workspace = (call scope queued).2.workspace ∧
    (call scope replaying).2.input.requests.toList =
      replaying.input.requests.toList ++ (purposes scope replaying).map input.promptFor := by
  intro queued replaying
  have beside : replayPace.Beside ⟨input.queued text file, workspace⟩ ⟨input.replaying text, workspace⟩ :=
    ⟨input.replays_replaying text file, rfl⟩
  have besideNow : replayPace.Beside queued replaying := beside_deskAt trivial beside count
  obtain ⟨same, besideAfter⟩ := @call_beside _ scope _ _ trivial besideNow
  obtain ⟨prompts, asks⟩ := @asks_deskAt scope between ⟨input.replaying text, workspace⟩ rfl count
  have asksNow := @asks_call scope replaying asks.blockDepth
  rw [asks.promptFor] at asksNow
  exact ⟨call_ne_exhausted scope queued, same, besideAfter.workspace, asksNow.requests⟩

end Compile

end GroupScript
