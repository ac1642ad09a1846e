import SsrBuild.Grammar.Primary
import SsrBuild.Proofs.Grammar.ClassPlaces

/-!
Where the nodes of primary expressions stand.
-/

set_option autoImplicit false

namespace SsrBuild.Grammar

open Grammar.Parser
open SsrBuild.Tree (Placed)

variable {parse : Goal → Parser Tree} {low start : Nat} {known : List Tree}

theorem yields_spreadElement (hparse : PlacesGoals parse) :
    Yields low known (spreadElement parse) ([·]) :=
  .mark fun _ hstart ↦ .step fun _ ↦ .bind (hparse trivial) fun _ ↦
    .close rfl hstart (by simp +contextual)

/-! ### Templates -/

theorem yields_templateText {tagged : Bool} : Yields low known (templateText tagged) ([·]) := by
  intro context s result next hrun horderly hknown
  have hrest : Ensures (·.lexeme = s.lexeme) (do
      complainIf (!tagged && !s.lexeme.cooked)
      take
      let mark := if [.templateHead, .templateMiddle].contains s.lexeme.token then 2 else 1
      return Tree.node .other ⟨s.lexeme.start + 1, s.lexeme.stop - mark⟩ [])
      fun next tree ↦ Placed low next.mark [tree] := by
    refine .bind (ensures_complainIf _ s.lexeme) fun _ ↦ .bind (ensures_take s.lexeme) fun _ ↦
      .pure fun next hnext hstop ↦ ?_
    have hlow : low ≤ s.lexeme.start + 1 := Nat.le_succ_of_le hknown.1
    have hhigh : s.lexeme.stop ≤ next.mark := Nat.le_trans (Nat.le_of_eq hstop.symm) hnext.1
    exact Tree.placed_singleton.mpr
      (Tree.isPlaced_leaf_iff.mpr ⟨hlow, Nat.le_trans (Nat.sub_le _ _) hhigh⟩)
  exact hrest context s result next hrun horderly rfl

theorem yields_embeddedExpression (hparse : PlacesGoals parse) {tagged : Bool} :
    Yields low known (embeddedExpression parse tagged) (fun part ↦ [part.1, part.2.1]) :=
  .bind (.within (hparse trivial)) fun _ ↦ .step fun _ ↦ .step fun _ ↦ .step fun _ ↦ .step fun _ ↦
    .step fun _ ↦ .step fun _ ↦ .bind yields_templateText fun _ ↦ .ret (by simp +contextual)

/-- The texts of a template come before its expressions, whatever their order in the text. -/
theorem yields_templateParts (hparse : PlacesGoals parse) {tagged : Bool} :
    Yields low known (templateParts parse tagged) id := by
  refine .knowing [] (by simp) (.bind yields_templateText fun first ↦
    .bindAt (.iterate (fun parts : List Tree × List Tree × Bool ↦ parts.1 ++ parts.2.1) ?_
      (by simp)) fun ⟨texts, expressions, _⟩ ↦ .ret (by simp))
  rintro ⟨texts, expressions, goesOn⟩
  refine .ite (.ret fun _ _ ↦ Tree.placed_nil) (.bind (yields_embeddedExpression hparse)
    fun ⟨expression, text, more⟩ ↦ .ret fun high h ↦ ?_)
  have hperm : (expressions ++ [expression] ++ [text]).Perm
      ([text] ++ (expressions ++ [expression])) := List.perm_append_comm
  have hplaced : Placed low high (texts ++ ([text] ++ (expressions ++ [expression]))) :=
    h.perm (by simpa using hperm.append_left texts)
  simpa using hplaced

theorem yields_template (hparse : PlacesGoals parse) {tagged : Bool} :
    Yields low known (template parse tagged) ([·]) :=
  .mark fun _ hstart ↦ .step fun _ ↦ .ite
    (.bind (yields_templateParts hparse) fun _ ↦ .close rfl hstart (by simp +contextual))
    (.bind yields_templateText fun _ ↦ .given (.close rfl hstart (by simp +contextual)))

/-! ### Arrays and objects -/

theorem yields_arrayElement (hparse : PlacesGoals parse) :
    Yields low known (arrayElement parse) Tree.solid := by
  have hsolid : ∀ high tree, Placed low high [tree] → Placed low high tree.solid :=
    fun _ _ h ↦ (Tree.placed_singleton.mp h).solid
  have hargument : Yields low known (parse (.assignment true)) ([·]) := hparse trivial
  refine .step fun next ↦ ?_
  split
  · exact .mark fun _ _ ↦ .ret (by simp)
  · exact (yields_spreadElement hparse).told hsolid
  · exact hargument.told hsolid

theorem yields_array (hparse : PlacesGoals parse) : Yields low known (array parse) ([·]) :=
  .mark fun _ hstart ↦ .step fun _ ↦ .bind (.within (.separated (yields_arrayElement hparse)))
    fun ⟨_, _⟩ ↦ .step fun _ ↦ .closeParts rfl hstart fun _ h ↦
      Tree.placed_flatMap_solid_iff.mp h.right

theorem yields_propertyValue (hparse : PlacesGoals parse) {variable_ : Option String} {key : Tree}
    (hstart : low ≤ start) : Yields low [key] (propertyValue parse start variable_ key) ([·]) := by
  refine .step fun colon ↦ ?_
  split
  · next name =>
    refine .knowing [key, .node (.identifier name) key.span []]
      (fun high h ↦ by simpa using ⟨Tree.placed_singleton.mp h, (Tree.placed_singleton.mp h).1⟩) ?_
    exact .step fun _ ↦ .ite (.bind (hparse trivial) fun _ ↦ .close rfl hstart (by simp +contextual))
      (.close rfl hstart (by simp +contextual))
  · exact .step fun _ ↦ .bind (hparse trivial) fun _ ↦ .close rfl hstart (by simp +contextual)

theorem yields_objectMember (hparse : PlacesGoals parse) :
    Yields low known (objectMember parse) ([·]) := by
  refine .mark fun start hstart ↦ .step fun _ ↦ .ite (yields_spreadElement hparse) ?_
  refine .step fun given ↦ .step fun kind? ↦ ?_
  split
  · exact .step fun _ ↦ .bind (yields_propertyName hparse) fun ⟨_, _⟩ ↦
      .bind (yields_accessorMethod hparse) fun _ ↦ .step fun _ ↦
        .close rfl hstart (by simp +contextual)
  · exact .step fun _ ↦ .step fun _ ↦ .step fun _ ↦ .step fun _ ↦
      .bind (yields_propertyName hparse) fun ⟨key, _⟩ ↦ .step fun _ ↦ .ite
        (.step fun _ ↦ .bind (yields_method hparse) fun _ ↦ .step fun _ ↦
          .close rfl hstart (by simp +contextual))
        (.step fun _ ↦ .knowing [key] (by simp +contextual) (yields_propertyValue hparse hstart))

theorem yields_object (hparse : PlacesGoals parse) : Yields low known (object parse) ([·]) :=
  .mark fun _ hstart ↦ .step fun _ ↦ .bind (.within (.separated (yields_objectMember hparse)))
    fun ⟨_, _⟩ ↦ .step fun _ ↦ .close rfl hstart (by simp +contextual)

/-! ### Other primary expressions -/

theorem yields_parenthesized (hparse : PlacesGoals parse) :
    Yields low known (parenthesized parse) ([·]) := by
  refine .mark fun _ hstart ↦ .step fun _ ↦ .mark fun _ hinner ↦
    .bind (.within (.separated (hparse trivial))) fun ⟨expressions, _⟩ ↦ .step fun _ ↦ ?_
  split
  · exact .fail
  · exact .given (.step fun _ ↦ .close rfl hstart (by simp +contextual))
  · exact .bindAt (.close rfl hinner (by simp +contextual)) fun _ ↦ .step fun _ ↦
      .close rfl hstart (by simp +contextual)

theorem yields_regex : Yields low known regex ([·]) :=
  .step fun _ ↦ .step fun _ ↦ .ite .leaf .fail

theorem yields_superReference : Yields low known superReference ([·]) :=
  .bind .leaf fun _ ↦ .step fun _ ↦ .step fun _ ↦ .ret (by simp +contextual)

theorem yields_importCall (hparse : PlacesGoals parse) (hstart : low ≤ start) :
    Yields low known (importCall parse start) ([·]) :=
  .step fun _ ↦ .bind (.within (.treesWithCommas (hparse trivial))) fun _ ↦ .step fun _ ↦
    .step fun _ ↦ .close rfl hstart (by simp +contextual)

theorem yields_importExpression (hparse : PlacesGoals parse) :
    Yields low known (importExpression parse) ([·]) :=
  .mark fun _ hstart ↦ .bind .leaf fun _ ↦ .step fun _ ↦ .ite
    (.step fun _ ↦ .ite (.bind .leaf fun _ ↦ .close rfl hstart (by simp +contextual))
      (.step fun _ ↦ .ite (.step fun _ ↦ yields_importCall hparse hstart) .fail))
    (yields_importCall hparse hstart)

theorem yields_primary (hparse : PlacesGoals parse) {construction : Parser Tree}
    (hconstruction : Yields low known construction ([·])) :
    Yields low known (primary parse construction) ([·]) := by
  refine .mark fun start hstart ↦ .step fun next ↦ ?_
  split
  · exact .leaf
  · exact .leaf
  · exact .leaf
  · exact .leaf
  · exact .leaf
  · exact .leaf
  · exact yields_stringLiteral
  · exact yields_template hparse
  · exact yields_template hparse
  · exact yields_array hparse
  · exact yields_object hparse
  · exact yields_parenthesized hparse
  · exact yields_regex
  · exact yields_regex
  · exact yields_functionFrom hparse hstart
  · exact .knowing [] (by simp) (yields_classFrom hparse hstart)
  · exact .bind (yields_decorators hparse) fun decorated ↦
      .knowing decorated (by simp +contextual) (yields_decoratedClass hparse hstart)
  · exact yields_superReference
  · exact yields_importExpression hparse
  · exact hconstruction
  · exact .step fun _ ↦ .ite (.step fun _ ↦ yields_functionFrom hparse hstart)
      yields_identifierReference

end SsrBuild.Grammar
