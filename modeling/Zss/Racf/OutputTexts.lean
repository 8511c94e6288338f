import Mathlib.Data.List.Induction
import Zss.Racf.AdminService

/-!
# The texts of the output of R_admin

`getMsgAndOperatorCommand` walks a chain of outputs that R_admin leaves, for the message and the command
that the caller is told. `output_texts` says which these are, of any chain, one that ends nowhere too.

## What is not established

What the texts mean. A chain is read as it stands: nothing is said of one that changes while it is
walked.
-/

namespace Zss.Racf

open Zss.Tss (Text AdminServiceMessage zisServiceMessageTextSize)

/-! ## What is seen of a chain -/

section

variable (nodes : Nat → OutputNode)

/-- The first so many nodes of a chain. -/
def chain : Nat → Option Nat → List OutputNode
  | 0, _ => []
  | _ + 1, none => []
  | left + 1, some next => nodes next :: chain left (nodes next).next

/-- The end of a chain after so many nodes. -/
def chainEnd : Nat → Option Nat → Option Nat
  | 0, out => out
  | _ + 1, none => none
  | left + 1, some next => chainEnd left (nodes next).next

/-- A kind of output is among nodes. -/
def isAmong (kind : OutputKind) (seen : List OutputNode) : Bool := seen.any (·.kind = kind)

/-- A message and a command are among nodes. -/
def bothAmong (seen : List OutputNode) : Bool := isAmong .message seen && isAmong .command seen

/-- The text of the last output of a kind, as far as it is copied. -/
def lastText (kind : OutputKind) (seen : List OutputNode) : Text :=
  ((seen.filter (·.kind = kind)).getLast?.map (·.text.take zisServiceMessageTextSize)).getD []

/-- The characters of a message that count. -/
def said (message : AdminServiceMessage) : Text := message.text.take message.length

/-- The nodes up to where both are known. -/
def untilKnown (messageKnown commandKnown : Bool) : List OutputNode → List OutputNode
  | [] => []
  | node :: rest =>
    if commandKnown && messageKnown then []
    else node :: untilKnown (messageKnown || node.kind = .message)
      (commandKnown || node.kind = .command) rest

/-- The nodes that are seen of those there are: no more than it takes to know both. -/
structure Seen (all seen : List OutputNode) : Prop where
  first : seen <+: all
  enough : bothAmong seen = false → seen = all
  needed : ∀ fewer, fewer <+: seen → bothAmong fewer → fewer = seen

variable {nodes}

/-- The loop takes the nodes up to where both are known, and tells of a chain that goes on. -/
theorem outputLoop_eq (left : Nat) (out : Option Nat) (messageKnown commandKnown : Bool)
    (data : OutputHandlerData) :
    let seen := untilKnown messageKnown commandKnown (chain nodes left out)
    outputLoop nodes left out messageKnown commandKnown data =
      (if (messageKnown || isAmong .message seen) && (commandKnown || isAmong .command seen) ||
          (chainEnd nodes left out).isNone then rcGetMsgHandlerOk
        else rcGetMsgHandlerLoop,
        seen.foldl OutputHandlerData.take data) := by
  induction left generalizing out messageKnown commandKnown data with
  | zero =>
    cases out with
    | none => simp [outputLoop, chain, untilKnown, chainEnd]
    | some next =>
      cases messageKnown <;> cases commandKnown <;>
        simp [outputLoop, chain, untilKnown, chainEnd, isAmong]
  | succ left ih =>
    cases out with
    | none => simp [outputLoop, chain, untilKnown, chainEnd]
    | some next =>
      have hchain : chain nodes (left + 1) (some next) =
        nodes next :: chain nodes left (nodes next).next := rfl
      have hend : chainEnd nodes (left + 1) (some next) =
        chainEnd nodes left (nodes next).next := rfl
      by_cases known : (commandKnown && messageKnown) = true
      · obtain ⟨rfl, rfl⟩ := Bool.and_eq_true_iff.mp known
        simp [outputLoop, untilKnown, hchain]
      · have hloop : outputLoop nodes (left + 1) (some next) messageKnown commandKnown data =
            outputLoop nodes left (nodes next).next
              (messageKnown || (nodes next).kind = .message)
              (commandKnown || (nodes next).kind = .command) (data.take (nodes next)) :=
          if_neg known
        have hseen : untilKnown messageKnown commandKnown (chain nodes (left + 1) (some next)) =
            nodes next :: untilKnown (messageKnown || (nodes next).kind = .message)
              (commandKnown || (nodes next).kind = .command)
              (chain nodes left (nodes next).next) := by
          rw [hchain]
          exact if_neg known
        dsimp only
        rw [hloop, hseen, hend, ih]
        simp [isAmong, Bool.or_assoc]

/-- What is known before counts as seen. -/
theorem untilKnown_seen (all : List OutputNode) (messageKnown commandKnown : Bool) :
    let seen := untilKnown messageKnown commandKnown all
    seen <+: all ∧
      (((messageKnown || isAmong .message seen) && (commandKnown || isAmong .command seen)) = false →
        seen = all) ∧
      ∀ fewer, fewer <+: seen →
        (messageKnown || isAmong .message fewer) && (commandKnown || isAmong .command fewer) →
        fewer = seen := by
  induction all generalizing messageKnown commandKnown with
  | nil => simp [untilKnown]
  | cons node rest ih =>
    by_cases known : (commandKnown && messageKnown) = true
    · obtain ⟨rfl, rfl⟩ := Bool.and_eq_true_iff.mp known
      simp [untilKnown]
    · have hseen : untilKnown messageKnown commandKnown (node :: rest) =
          node :: untilKnown (messageKnown || node.kind = .message)
            (commandKnown || node.kind = .command) rest := if_neg known
      obtain ⟨first, enough, needed⟩ :=
        ih (messageKnown || node.kind = .message) (commandKnown || node.kind = .command)
      dsimp only
      rw [hseen]
      refine ⟨List.cons_prefix_cons.mpr ⟨rfl, first⟩, ?_, ?_⟩
      · intro h
        rw [enough (by simpa [isAmong, Bool.or_assoc] using h)]
      · intro fewer hfewer h
        cases fewer with
        | nil =>
          refine absurd ?_ known
          simpa [isAmong, and_comm] using h
        | cons node' fewer =>
          obtain ⟨rfl, hfewer⟩ := List.cons_prefix_cons.mp hfewer
          rw [needed fewer hfewer (by simpa [isAmong, Bool.or_assoc] using h)]

theorem seen_untilKnown (all : List OutputNode) : Seen all (untilKnown false false all) := by
  obtain ⟨first, enough, needed⟩ := untilKnown_seen all false false
  exact ⟨first, enough, needed⟩

@[simp] theorem said_set (message : AdminServiceMessage) (bytes : Text) :
    said (message.set bytes) = bytes := by
  simp [said, AdminServiceMessage.set]

/-- What is copied last is what is said. -/
theorem foldl_take_said (seen : List OutputNode) :
    said (seen.foldl OutputHandlerData.take .empty).message = lastText .message seen ∧
      said (seen.foldl OutputHandlerData.take .empty).command = lastText .command seen := by
  induction seen using List.reverseRecOn with
  | nil => exact ⟨rfl, rfl⟩
  | append_singleton seen node ih =>
    rw [List.foldl_append, List.foldl_cons, List.foldl_nil]
    cases kind : node.kind with
    | message => exact ⟨by simp [OutputHandlerData.take, kind, lastText], by
        simpa [OutputHandlerData.take, kind, lastText] using ih.2⟩
    | command => exact ⟨by simpa [OutputHandlerData.take, kind, lastText] using ih.1, by
        simp [OutputHandlerData.take, kind, lastText]⟩
    | other => simpa [OutputHandlerData.take, kind, lastText] using ih

/-- **The texts of the output.** Of any chain of outputs, no more are seen than it takes to know a
message and a command, and never more than seventeen; the last text of each kind that is seen is
copied as far as it fits; and the handler fails exactly where both are not known and the chain goes
on. -/
theorem output_texts (nodes : Nat → OutputNode) (out : Option Nat) :
    ∃ seen rc data, Seen (chain nodes (radminOutMaxNodeCount + 1) out) seen ∧
      getMsgAndOperatorCommand nodes out .empty = (rc, data) ∧
      said data.message = lastText .message seen ∧ said data.command = lastText .command seen ∧
      (rc = rcGetMsgHandlerOk ∨ rc = rcGetMsgHandlerLoop) ∧
      (rc = rcGetMsgHandlerLoop ↔
        bothAmong seen = false ∧ (chainEnd nodes (radminOutMaxNodeCount + 1) out).isSome) := by
  let all := chain nodes (radminOutMaxNodeCount + 1) out
  let goesOn := (chainEnd nodes (radminOutMaxNodeCount + 1) out).isSome
  have hloop := @outputLoop_eq nodes (radminOutMaxNodeCount + 1) out false false .empty
  obtain ⟨message, command⟩ := foldl_take_said (untilKnown false false all)
  refine ⟨_, _, _, seen_untilKnown all, hloop, message, command, ?_, ?_⟩
  · split
    next => exact .inl rfl
    next => exact .inr rfl
  · split
    next h =>
      constructor
      · intro hrc
        exact absurd hrc (by decide)
      · intro ⟨unknown, goes⟩
        have h : bothAmong (untilKnown false false all) = true ∨ goesOn = false := by
          simpa [bothAmong, goesOn] using h
        rcases h with h | h
        · exact absurd (unknown.symm.trans h) (by decide)
        · exact absurd (goes.symm.trans h) (by decide)
    next h =>
      have h : bothAmong (untilKnown false false all) = false ∧ goesOn = true := by
        simpa [bothAmong, goesOn, Option.isSome_iff_ne_none] using h
      exact ⟨fun _ => h, fun _ => rfl⟩

end

end Zss.Racf
