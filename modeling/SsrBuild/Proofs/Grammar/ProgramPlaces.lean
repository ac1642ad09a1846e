import SsrBuild.Grammar.Program
import SsrBuild.Proofs.Grammar.ExpressionPlaces
import SsrBuild.Proofs.Grammar.StatementPlaces

/-!
Where the nodes of programs stand. The rules of the grammar keep the nodes placed if the goals below
them do (`placesGoals_rule`), so the goals do at any depth.
-/

set_option autoImplicit false

namespace SsrBuild.Grammar

open Grammar.Parser
open SsrBuild.Tree (Placed)

variable {low : Nat} {known : List Tree}

theorem placesGoals_rule {parse : Goal → Parser Tree} (hparse : PlacesGoals parse) :
    PlacesGoals (rule parse) := by
  intro low known goal hgoal
  cases goal with
  | statement alone => exact yields_statement hparse
  | expression => exact yields_expression hparse
  | assignment resultType => exact yields_assignment hparse
  | binary floor => exact yields_binary hparse
  | operand start => exact yields_operand hparse hgoal
  | leftHand => exact yields_leftHand hparse
  | primary => exact yields_primary hparse (yields_construction hparse)
  | pattern => exact yields_bindingPattern hparse
  | type => exact yields_typeExpression hparse
  | typeOperator => exact yields_typeOperator hparse
  | element nested => exact yields_element hparse

theorem placesGoals_parseGoal (depth : Nat) : PlacesGoals (parseGoal depth) := by
  induction depth with
  | zero => exact fun {_ _ _} _ ↦ Yields.fail
  | succ depth ih => exact placesGoals_rule ih

theorem yields_statements (depth : Nat) :
    Yields low known (upTo .endOfText (parseGoal depth (.statement false))) id :=
  .treesUpTo (placesGoals_parseGoal depth trivial)

theorem yields_program (depth : Nat) : Yields low known (program (parseGoal depth)) id :=
  .step fun _ ↦ .part .leaf fun _ ↦ .bind (yields_statements depth) fun _ ↦
    .ret (by simp +contextual)

/-- The statements after the line that names the interpreter begin after it. -/
theorem ensures_program (line : Lexeme) (hline : line.token = .hashbang) (depth : Nat) :
    Ensures (·.lexeme = line) (program (parseGoal depth)) fun s statements ↦
      ∃ span rest, statements = .node .other span [] :: rest ∧
        Placed line.stop s.mark rest := by
  intro context s result next hrun horderly hlexeme
  have hstands : (s.lexeme.token == .hashbang) = true := by rw [hlexeme, hline]; rfl
  obtain ⟨stands, same, hsees, hrun⟩ := of_bind_ok hrun
  obtain ⟨hvalue, rfl⟩ := Prod.mk.inj hsees
  obtain rfl := Except.ok.inj hvalue
  rw [if_pos hstands] at hrun
  obtain ⟨first, middle, hfirst, hrun⟩ := of_bind_ok hrun
  obtain ⟨parts, same, hparts, hrun⟩ := of_bind_ok hrun
  obtain ⟨hvalue, rfl⟩ := Prod.mk.inj hparts
  obtain rfl := Except.ok.inj hvalue
  obtain ⟨hleads, hle, span, rfl⟩ :=
    ensures_leaf line .other context s first middle hfirst horderly hlexeme
  obtain ⟨statements, last, hstatements, hrun⟩ := of_bind_ok hrun
  obtain ⟨hresult, rfl⟩ := Prod.mk.inj hrun
  obtain rfl := Except.ok.inj hresult
  obtain ⟨hleadsOn, hplaced⟩ := yields_statements depth context middle statements last hstatements
    hleads.orderly ⟨hle, Tree.placed_nil⟩
  exact ⟨hleads.trans hleadsOn, span, statements, rfl, hplaced⟩

/-! ### Texts that are accepted -/

variable {dialect : Dialect} {text : List Char} {depth : Nat} {statements : List Tree}

/-- The place at the beginning of a text. -/
theorem isOrderly_beginning (dialect : Dialect) (text : List Char) :
    (beginning dialect text).IsOrderly :=
  ⟨Nat.zero_le _, (Lexeme.isFrom_next (!dialect.isModule) ⟨0, text⟩).2⟩

/-- What a reading ensures holds of the result of a text that is accepted. -/
theorem exists_state_of_accept {α : Type} {parser : Parser α} {before : State → Prop}
    {after : State → α → Prop} {result : α} (h : accept dialect text parser = some result)
    (hparser : Ensures before parser after) (hbefore : before (beginning dialect text)) :
    ∃ next, (beginning dialect text).LeadsTo next ∧ next.sound = true ∧ after next result := by
  unfold accept at h
  split at h
  · next found next hrun =>
    split_ifs at h with hsound
    obtain rfl := Option.some.inj h
    obtain ⟨hleads, hafter⟩ := hparser _ _ found next hrun (isOrderly_beginning dialect text) hbefore
    exact ⟨next, hleads, hsound, hafter⟩
  · cases h

/-- The statements of a program are placed. -/
theorem placed_of_accept (h : accept dialect text (program (parseGoal depth)) = some statements) :
    ∃ high, Placed 0 high statements := by
  obtain ⟨next, -, -, hplaced⟩ := exists_state_of_accept h (yields_program depth)
    ⟨Nat.zero_le _, Tree.placed_nil⟩
  exact ⟨next.mark, hplaced⟩

end SsrBuild.Grammar
