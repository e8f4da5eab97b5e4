import GroupScript.Proofs.CompileConsulting
import GroupScript.Proofs.ParallelCompilation

/-!
# Prompts

A reader is asked for lines under two prompts.  The first line of a statement outside all blocks is asked for under the
primary one, and every other line under the continuation prompt.  When a call of the compiler comes back, as many blocks
are open as before, also after an error in the midst of a block.  So the next call begins with the primary prompt again.
-/

namespace GroupScript

/-- What a line is asked for. -/
inductive Purpose
  /-- It is the first line of a statement outside all blocks. -/
  | opening
  /-- It continues such a statement. -/
  | continuation
  /-- It stands inside a block. -/
  | nested
  deriving DecidableEq

namespace Input

/-- The prompt under which a line is asked for. -/
def promptFor (input : Input) : Purpose → String
  | .opening => input.prompt
  | .continuation => input.continuationPrompt
  | .nested => input.continuationPrompt

/-- The number of lines that are asked for from one input to a later one. -/
def requestsUntil (before after : Input) : Nat :=
  after.requests.size - before.requests.size

/-- What lines are asked for to take the next statement outside all blocks.  Statements without text are passed over. -/
def purposes (input : Input) : List Purpose :=
  match _begun : input.nextLine false with
  | (none, after) => List.replicate (input.requestsUntil after) .opening
  | (some line, rest) =>
      List.replicate (input.requestsUntil rest) .opening ++
        List.replicate (rest.requestsUntil (rest.assemble line).2) .continuation ++
          if (Text.trim (rest.assemble line).1).isEmpty then (rest.assemble line).2.purposes else []
termination_by input.unread
decreasing_by
  have := unread_of_nextLine _begun
  have := unread_assemble rest line
  omega

/-- An input leads to a later one by requests under some prompts, with as many blocks open as before. -/
structure Asks (before : Input) (prompts : List String) (after : Input) : Prop where
  requests : after.requests.toList = before.requests.toList ++ prompts
  prompt : after.prompt = before.prompt
  continuationPrompt : after.continuationPrompt = before.continuationPrompt
  blockDepth : after.blockDepth = before.blockDepth

namespace Asks

variable {before middle after : Input} {prompts more : List String}

theorem withQueue (input : Input) (queue : List Line) : input.Asks [] { input with queue } :=
  ⟨(List.append_nil _).symm, rfl, rfl, rfl⟩

theorem refl (input : Input) : input.Asks [] input :=
  withQueue input input.queue

theorem trans (first : before.Asks prompts middle) (second : middle.Asks more after) :
    before.Asks (prompts ++ more) after where
  requests := by rw [second.requests, first.requests, List.append_assoc]
  prompt := second.prompt.trans first.prompt
  continuationPrompt := second.continuationPrompt.trans first.continuationPrompt
  blockDepth := second.blockDepth.trans first.blockDepth

theorem promptFor (asks : before.Asks prompts after) : after.promptFor = before.promptFor := by
  funext purpose
  cases purpose with
  | opening => exact asks.prompt
  | continuation => exact asks.continuationPrompt
  | nested => exact asks.continuationPrompt

theorem requestsUntil (asks : before.Asks prompts after) : before.requestsUntil after = prompts.length := by
  have counted := congrArg List.length asks.requests
  rw [List.length_append, Array.length_toList, Array.length_toList] at counted
  rw [Input.requestsUntil]
  omega

end Asks

/-- An input leads to a later one by requests that are all made under one prompt. -/
def AsksUnder (before : Input) (prompt : String) (after : Input) : Prop :=
  ∃ count, before.Asks (List.replicate count prompt) after

namespace AsksUnder

variable {before middle after : Input} {prompt : String}

theorem refl (input : Input) (prompt : String) : input.AsksUnder prompt input :=
  ⟨0, .refl input⟩

theorem trans (first : before.AsksUnder prompt middle) (second : middle.AsksUnder prompt after) :
    before.AsksUnder prompt after := by
  obtain ⟨count, asks⟩ := first
  obtain ⟨more, asksMore⟩ := second
  refine ⟨count + more, ?_⟩
  rw [List.replicate_add]
  exact asks.trans asksMore

theorem continuationPrompt (under : before.AsksUnder prompt after) :
    after.continuationPrompt = before.continuationPrompt := by
  obtain ⟨_, asks⟩ := under
  exact asks.continuationPrompt

theorem inside (under : before.AsksUnder prompt after) (inside : before.blockDepth ≠ 0) : after.blockDepth ≠ 0 := by
  obtain ⟨_, asks⟩ := under
  rw [asks.blockDepth]
  exact inside

/-- The requests under one prompt, as requests with a purpose. -/
theorem asks {purpose : Purpose} (under : before.AsksUnder (before.promptFor purpose) after) :
    before.Asks ((List.replicate (before.requestsUntil after) purpose).map before.promptFor) after := by
  obtain ⟨count, asks⟩ := under
  rw [asks.requestsUntil, List.length_replicate, List.map_replicate]
  exact asks

theorem leaveBlock (under : before.enterBlock.AsksUnder prompt after) : before.AsksUnder prompt after.leaveBlock := by
  obtain ⟨count, asks⟩ := under
  refine ⟨count, asks.requests, asks.prompt, asks.continuationPrompt, ?_⟩
  rw [Input.leaveBlock, asks.blockDepth]
  exact Nat.add_sub_cancel _ 1

end AsksUnder

theorem asksUnder_nextLine (input : Input) (continued : Bool) :
    input.AsksUnder (input.currentPrompt continued) (input.nextLine continued).2 := by
  unfold nextLine
  split
  · exact ⟨0, .withQueue input _⟩
  · exact .refl input _
  · exact ⟨1, by simp [ask, afterReply], rfl, rfl, rfl⟩

theorem asksUnder_continuation (input : Input) (joined : Joined) :
    input.AsksUnder input.continuationPrompt (input.continuation joined).2 := by
  fun_induction continuation joined input with
  | case1 joined input isOpen after ended =>
      have asked := input.asksUnder_nextLine true
      rw [ended] at asked
      exact asked
  | case2 joined input isOpen line after taken more last continued ih =>
      have asked := input.asksUnder_nextLine true
      rw [taken] at asked
      rw [continued, asked.continuationPrompt] at ih
      exact asked.trans ih
  | case3 joined input closed => exact .refl input _

theorem asks_splitStatement (input : Input) (line : Line) (text : List Char) :
    input.Asks [] (input.splitStatement line text).2 := by
  unfold splitStatement
  split
  · exact .refl input
  · dsimp only
    split
    · exact .refl input
    · exact .withQueue input _

theorem asksUnder_assemble (input : Input) (line : Line) :
    input.AsksUnder input.continuationPrompt (input.assemble line).2 := by
  have continued := input.asksUnder_continuation (Joined.first line)
  rw [assemble_eq rfl]
  exact continued.trans ⟨0, asks_splitStatement _ line _⟩

/-- Outside all blocks, the lines of the next statement are asked for under the prompts of their purposes. -/
theorem asks_next {input : Input} (outside : input.blockDepth = 0) :
    input.Asks (input.purposes.map input.promptFor) input.next.2 := by
  have primary (input : Input) (outside : input.blockDepth = 0) : input.currentPrompt false = input.prompt := by
    simp [currentPrompt, outside]
  fun_induction purposes input with
  | case1 input after ended =>
      have asked := input.asksUnder_nextLine false
      rw [primary input outside, ended] at asked
      rw [next_of_end ended]
      exact AsksUnder.asks asked
  | case2 input line rest begun ih =>
      have asked := input.asksUnder_nextLine false
      rw [primary input outside, begun] at asked
      have first := @AsksUnder.asks _ _ .opening asked
      have further := @AsksUnder.asks _ _ .continuation (rest.asksUnder_assemble line)
      rw [first.promptFor] at further
      rw [next_of_line begun, List.map_append, List.map_append]
      split
      · have onward := ih ((further.blockDepth.trans first.blockDepth).trans outside)
        rw [(first.trans further).promptFor] at onward
        exact (first.trans further).trans onward
      · rw [List.map_nil, List.append_nil]
        exact first.trans further

/-- Inside a block, all lines are asked for under the continuation prompt. -/
theorem asksUnder_next {input : Input} (inside : input.blockDepth ≠ 0) :
    input.AsksUnder input.continuationPrompt input.next.2 := by
  have prompted (input : Input) (inside : input.blockDepth ≠ 0) :
      input.currentPrompt false = input.continuationPrompt := by
    simp [currentPrompt, inside]
  fun_induction next input with
  | case1 input after ended =>
      have asked := input.asksUnder_nextLine false
      rwa [prompted input inside, ended] at asked
  | case2 input line rest begun text empty ih =>
      have asked := input.asksUnder_nextLine false
      rw [prompted input inside, begun] at asked
      have assembled := rest.asksUnder_assemble line
      have statement := asked.trans (asked.continuationPrompt ▸ assembled)
      have onward := ih (statement.inside inside)
      rw [statement.continuationPrompt] at onward
      exact statement.trans onward
  | case3 input line rest begun text visible =>
      have asked := input.asksUnder_nextLine false
      rw [prompted input inside, begun] at asked
      exact asked.trans (asked.continuationPrompt ▸ rest.asksUnder_assemble line)

end Input

namespace Compile

/-- The guarantee that all lines are asked for under the continuation prompt. -/
def continuing : Guarantee Desk where
  holds := fun _ => True
  leads := fun before after => before.input.AsksUnder before.input.continuationPrompt after.input
  refl := fun desk => .refl desk.input _
  trans := by
    intro first second third asks asksMore
    rw [asks.continuationPrompt] at asksMore
    exact asks.trans asksMore

/-- The same guarantee inside a block. -/
def continuingInside : Guarantee Desk :=
  { continuing with holds := fun desk => desk.input.blockDepth ≠ 0 }

theorem keeps_nextLine_inside : continuingInside.Keeps nextLine fun _ => True := by
  refine .modifyGet fun desk inside => ?_
  have asked := Input.asksUnder_next inside
  exact ⟨asked.inside inside, asked, trivial⟩

theorem blockwise_continuing (scope : Scope) : Blockwise continuing scope where
  asks := by
    intro name
    apply (keeps_valueOf?_pausing scope name).transfer fun _ => trivial
    intro before after _ paused
    refine ⟨trivial, ?_⟩
    change before.input.AsksUnder before.input.continuationPrompt after.input
    rw [paused]
    exact .refl before.input _
  block := by
    intro bound inner keeps opener terminators
    -- Inner statements keep the number of open blocks, so what takes the lines of the block is inside it throughout.
    have keepsInside (line : LogicalLine) : continuingInside.Keeps (inner line) fun _ => True := by
      apply (keeps line).transfer fun _ => trivial
      intro before after inside leads
      exact ⟨leads.inside inside, leads⟩
    have body := @keeps_blockBody continuingInside inner bound opener keepsInside keeps_nextLine_inside terminators []
    exact keeps_inBlock body (fun _ => Nat.succ_ne_zero _) fun _ _ leads => ⟨trivial, leads.leaveBlock⟩

theorem keeps_line_of_flat {scope : Scope} {bound : Nat} {line : LogicalLine}
    (flat : openingWords.contains line.key = false) : pausing.Keeps (Compile.line scope bound line) fun _ => True := by
  cases bound with
  | zero => exact .throw _
  | succ bound => exact keeps_lineWith (keeps_valueOf?_pausing scope) (by rw [flat]; exact nofun)

/-! ### Calls of the compiler -/

/-- One call of the compiler: what it gives, and the desk it leaves. -/
def call (scope : Scope) (desk : Desk) : Except Halt (Option Statement) × Desk :=
  match next scope desk with
  | .ok statement after => (.ok statement, after)
  | .error halt after => (.error halt, after)

theorem call_of_ok {scope : Scope} {desk after : Desk} {statement : Option Statement}
    (ran : next scope desk = .ok statement after) : call scope desk = (.ok statement, after) := by
  rw [call, ran]

theorem call_of_error {scope : Scope} {desk after : Desk} {halt : Halt}
    (ran : next scope desk = .error halt after) : call scope desk = (.error halt, after) := by
  rw [call, ran]

theorem call_ne_exhausted (scope : Scope) (desk : Desk) : (call scope desk).1 ≠ .error .exhausted := by
  intro cutOff
  cases ran : next scope desk with
  | ok statement after =>
      rw [call_of_ok ran] at cutOff
      cases cutOff
  | error halt after =>
      obtain ⟨error, rfl⟩ := failure_of_next ran
      rw [call_of_error ran] at cutOff
      cases cutOff

/-- What lines are asked for in one call of the compiler.  After the first statement is taken, only one with statements
inside asks for more. -/
def purposes (scope : Scope) (desk : Desk) : List Purpose :=
  desk.input.purposes ++
    if desk.input.next.1.any fun line => openingWords.contains line.key then
      List.replicate (desk.input.next.2.requestsUntil (call scope desk).2.input) .nested
    else []

variable {scope : Scope} {desk : Desk} {found : LogicalLine} {input : Input}

/-- A call keeps what compiling the line that it takes keeps. -/
theorem leads_call {guarantee : Guarantee Desk} (taken : desk.input.next = (some found, input))
    (keeps : guarantee.Keeps (line scope (boundOf found input) found) fun _ => True)
    (holds : guarantee.holds { desk with input }) : guarantee.leads { desk with input } (call scope desk).2 := by
  have made : guarantee.Keeps (line scope (boundOf found input) found >>= fun statement => pure (some statement))
      fun _ => True := keeps.bind fun _ _ => .pure trivial
  have compiled := @next_of_taken scope desk found input taken
  cases ran : next scope desk with
  | ok statement after =>
      obtain ⟨-, leads, -⟩ := made.ok holds (compiled.symm.trans ran)
      rw [call_of_ok ran]
      exact leads
  | error halt after =>
      obtain ⟨error, rfl⟩ := failure_of_next ran
      obtain ⟨-, leads⟩ := made.error holds (compiled.symm.trans ran) Halt.noConfusion
      rw [call_of_error ran]
      exact leads

/-- Outside all blocks, a call of the compiler asks for its lines under the prompts of their purposes. -/
theorem asks_call (outside : desk.input.blockDepth = 0) :
    desk.input.Asks ((purposes scope desk).map desk.input.promptFor) (call scope desk).2.input := by
  have opening := Input.asks_next outside
  rcases taken : desk.input.next with ⟨_ | found, input⟩
  · have ended : call scope desk = (.ok none, { desk with input }) := call_of_ok (next_of_ended taken)
    rw [taken] at opening
    rw [ended, purposes, taken]
    simpa using opening
  · rw [taken] at opening
    unfold purposes
    rw [taken, List.map_append]
    apply opening.trans
    cases opens : openingWords.contains found.key with
    | false =>
        have paused := @leads_call scope _ _ _ _ taken (keeps_line_of_flat opens) trivial
        have same : (call scope desk).2.input = input := paused
        simp only [Option.any_some, opens, Bool.false_eq_true, if_false, List.map_nil, same]
        exact .refl input
    | true =>
        have continued := leads_call taken ((blockwise_continuing scope).keeps_line found) trivial
        have nested := @Input.AsksUnder.asks _ _ .nested continued
        dsimp only at nested
        rw [opening.promptFor] at nested
        simp only [Option.any_some, opens, if_true]
        exact nested

end Compile

end GroupScript
