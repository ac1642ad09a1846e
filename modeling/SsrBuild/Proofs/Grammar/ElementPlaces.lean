import SsrBuild.Grammar.Element
import SsrBuild.Proofs.Grammar.PatternPlaces

/-!
Where the nodes of elements stand.
-/

set_option autoImplicit false

namespace SsrBuild.Grammar

open Grammar.Parser
open SsrBuild.Tree (Placed)

variable {parse : Goal → Parser Tree} {low start : Nat} {known : List Tree}

instance (nested : Bool) (wanted : Token) : Advances (expectInside nested wanted) := by
  unfold expectInside
  infer_instance

/-! ### Names -/

theorem yields_elementWord : Yields low known elementWord (fun word ↦ [word.1]) :=
  .step fun _ ↦ .ite (.step fun _ ↦ .step fun _ ↦ .bind .leaf fun _ ↦
    .ret (by simp +contextual)) .fail

theorem yields_elementMembers {first : Tree} {spelled : List Char} (hstart : low ≤ start)
    (hfirst : ∀ high, Placed low high known → first.IsPlaced low high) :
    Yields low known (elementMembers start first spelled) (fun name ↦ [name.1]) := by
  refine .iterate (fun name : Tree × List Char ↦ [name.1]) ?_ (by simpa using hfirst)
  rintro ⟨object, spelled⟩
  exact .step fun _ ↦ .ite (.bind yields_elementWord fun ⟨_, _⟩ ↦ .step fun _ ↦
    .bindAt (.close rfl hstart (by simp +contextual)) fun _ ↦ .ret (by simp +contextual))
    (.ret (by simp))

theorem yields_elementName : Yields low known elementName (fun name ↦ [name.1]) := by
  refine .mark fun _ hstart ↦ .bind yields_elementWord fun ⟨word, spelled⟩ ↦ .step fun _ ↦ .ite
    (.bind yields_elementWord fun ⟨_, _⟩ ↦ .bindAt (.close rfl hstart (by simp +contextual)) fun _ ↦
      .ret (by simp +contextual))
    (.step fun _ ↦ .ite (yields_elementMembers hstart fun high h ↦ ?_) (.ret fun high h ↦ ?_))
  · have hword : word.IsPlaced low high := h.last
    split
    · exact hword
    · exact hword.leafAt
  · have hword : word.IsPlaced low high := h.last
    refine Tree.placed_singleton.mpr ?_
    dsimp only
    split
    · exact hword.leafAt
    · exact hword

/-! ### Embedded expressions and attributes -/

theorem yields_embedded (hparse : PlacesGoals parse) {nested : Bool} :
    Yields low known (embedded parse nested) ([·]) := by
  have hend : ∀ {start : Nat} {inner : Tree}, low ≤ start → Yields low [inner] (do
      expectInside nested .rbrace
      close start .other [inner]) ([·]) := fun hstart ↦
    .step fun _ ↦ .close rfl hstart (by simp)
  refine .mark fun start hstart context s result next hrun horderly hknown ↦ ?_
  obtain ⟨taken, after, hexpect, hrun⟩ := of_bind_ok hrun
  obtain ⟨hleads, hstop⟩ := ensures_expect .lbrace s.mark context s taken after hexpect horderly
    (Nat.le_refl _)
  obtain ⟨stands, same, hsees, hrun⟩ := of_bind_ok hrun
  obtain ⟨-, rfl⟩ := Prod.mk.inj hsees
  have hlow : low ≤ after.mark := Nat.le_trans hknown.1 hleads.le
  split at hrun
  · have hinner : (Tree.node .other ⟨after.lastStop, after.mark⟩ []).IsPlaced low after.mark :=
      Tree.isPlaced_leaf_iff.mpr ⟨Nat.le_trans hknown.1 hstop, Nat.le_refl _⟩
    obtain ⟨hleadsOn, htrees⟩ := hend hstart context after result next hrun hleads.orderly
      ⟨hlow, Tree.placed_singleton.mpr hinner⟩
    exact ⟨hleads.trans hleadsOn, htrees⟩
  · have hrest : Yields low [] (do
        let inner ← parse .expression
        expectInside nested .rbrace
        close start .other [inner]) ([·]) := .bind (hparse trivial) fun _ ↦ hend hstart
    obtain ⟨hleadsOn, htrees⟩ := hrest context after result next hrun hleads.orderly
      ⟨hlow, Tree.placed_nil⟩
    exact ⟨hleads.trans hleadsOn, htrees⟩

theorem yields_embeddedSpread (hparse : PlacesGoals parse) {nested : Bool} :
    Yields low known (embeddedSpread parse nested) ([·]) :=
  .mark fun _ hstart ↦ .step fun _ ↦ .step fun _ ↦ .bind (hparse trivial) fun _ ↦ .step fun _ ↦
    .close rfl hstart (by simp +contextual)

theorem yields_attributeValue (hparse : PlacesGoals parse) :
    Yields low known (attributeValue parse) ([·]) := by
  refine .step fun next ↦ ?_
  split
  · exact yields_stringLiteral
  · exact .step fun _ ↦ .step fun _ ↦ yields_embedded hparse
  · exact hparse trivial
  · exact .fail

theorem yields_attribute_ (hparse : PlacesGoals parse) :
    Yields low known (attribute_ parse) ([·]) := by
  have hend : ∀ {start : Nat} {name : Tree}, low ≤ start → Yields low [name] (do
      if ← sees .assign then
        takeBefore Lexeme.nextAttributeValue
        let given ← attributeValue parse
        close start .other [name, given]
      else close start .other [name]) ([·]) := fun hstart ↦
    .step fun _ ↦ .ite (.step fun _ ↦ .bind (yields_attributeValue hparse) fun _ ↦
      .close rfl hstart (by simp)) (.close rfl hstart (by simp))
  exact .mark fun _ hstart ↦ .step fun _ ↦ .ite (yields_embeddedSpread hparse)
    (.bind yields_elementWord fun ⟨word, _⟩ ↦ .step fun _ ↦ .ite
      (.bind yields_elementWord fun ⟨_, _⟩ ↦ .bindAt (.close rfl hstart (by simp +contextual)) fun _ ↦
        hend hstart)
      (.given (.knowing [word] (by simp +contextual) (hend hstart))))

/-! ### Elements -/

theorem yields_elementChildren (hparse : PlacesGoals parse) :
    Yields low known (elementChildren parse) id := by
  refine .manyTrees (.step fun next ↦ ?_)
  split
  · exact .step fun _ ↦ .ite (.ret (by simp))
      (.bind (hparse trivial) fun _ ↦ .ret (by simp +contextual))
  · exact .step fun _ ↦ .ite
      (.bind (yields_embeddedSpread hparse) fun _ ↦ .ret (by simp +contextual))
      (.bind (yields_embedded hparse) fun _ ↦ .ret (by simp +contextual))
  · exact .mark fun _ hstart ↦ .step fun _ ↦ .bindAt (.close rfl hstart (by simp)) fun _ ↦
      .ret (by simp +contextual)
  · exact .fail

theorem yields_closingTag {nested : Bool} :
    Yields low known (closingTag nested) (fun tag ↦ [tag.1]) :=
  .mark fun _ hstart ↦ .step fun _ ↦ .step fun _ ↦ .step fun _ ↦ .ite
    (.step fun _ ↦ .bindAt (.close rfl hstart (by simp)) fun _ ↦ .ret (by simp +contextual))
    (.bind yields_elementName fun ⟨_, _⟩ ↦ .step fun _ ↦
      .bindAt (.close rfl hstart (by simp +contextual)) fun _ ↦ .ret (by simp +contextual))

theorem yields_element (hparse : PlacesGoals parse) {nested : Bool} :
    Yields low known (element parse nested) ([·]) := by
  have hattributes : ∀ {place : Nat}, Yields place [] (many do
      if ← seesAny [.slash, .greater] then return none else return some (← attribute_ parse)) id :=
    .manyTrees (.step fun _ ↦ .ite (.ret (by simp)) (.bind (yields_attribute_ hparse) fun _ ↦
      .ret (by simp +contextual)))
  refine .mark fun _ hstart ↦ .step fun _ ↦ .step fun _ ↦ .ite
    (.step fun _ ↦ .bindAt (.close rfl hstart (by simp)) fun _ ↦
      .bind (yields_elementChildren hparse) fun _ ↦ .bind yields_closingTag
        (Prod.forall.mpr fun _ _ ↦ .step fun _ ↦ .close rfl hstart (by simp)))
    (.bind yields_elementName (Prod.forall.mpr fun name _ ↦ .step fun _ ↦ .ite
      (.bind (yields_typeArguments? hparse) fun types ↦
        .knowing ([name] ++ types) (by simp +contextual) ?_)
      (.given (.knowing ([name] ++ []) (by simp +contextual) ?_))))
  -- With or without arguments for types the rest of the tag is read in the same way.
  all_goals
    exact .bind hattributes fun _ ↦ .step fun _ ↦ .ite
      (.step fun _ ↦ .bindAt (.close rfl hstart (by simp +contextual)) fun _ ↦
        .close rfl hstart (by simp))
      (.step fun _ ↦ .bindAt (.close rfl hstart (by simp +contextual)) fun _ ↦
        .bind (yields_elementChildren hparse) fun _ ↦ .bind yields_closingTag
          (Prod.forall.mpr fun _ _ ↦ .step fun _ ↦ .close rfl hstart (by simp)))

end SsrBuild.Grammar
