import SsrBuild.Grammar.Target
import SsrBuild.Proofs.Grammar.Placed

/-!
Where the nodes of targets stand. A target is made of the nodes of the expression that it was read as,
so it is placed where that expression is and apart from what that expression is apart from.
-/

set_option autoImplicit false

namespace SsrBuild.Tree

open Text (Span)

variable {low high : Nat} {tree found : Tree} {trees others : List Tree} {label : Label}
  {span : Span}

/-- The second tree is placed, and no construction and no list of parameters in it is missing in the
first one. -/
def Becomes (low high : Nat) (tree found : Tree) : Prop :=
  found.IsPlaced low high ∧ tree.Covers found

theorem becomes_self (h : tree.NodesPlaced low high) (hhole : tree.isHole = false) :
    tree.Becomes low high tree :=
  ⟨h.isPlaced hhole, .refl tree⟩

/-- What a child becomes may take the place of the whole. -/
theorem Becomes.ofChild {child : Tree} (h : child.Becomes low high found) (hchild : child ∈ trees) :
    (node label span trees).Becomes low high found :=
  ⟨h.1, (covers_child hchild).trans h.2⟩

/-- A node with another label and other children, where a node is placed. -/
theorem NodesPlaced.remade {another : Label} (h : (node label span trees).NodesPlaced low high)
    (hhole : (node label span trees).isHole = false) (hlabel : another.isConstruction = false)
    (hlist : another ≠ .formalParameters) (harguments : another.hasArguments = false)
    (hothers : PartsPlaced low high others)
    (hcovers : ∀ other ∈ others, ∃ child ∈ trees, child.Covers other) :
    (node label span trees).Becomes low high (node another span others) := by
  refine ⟨(isPlaced_node_iff harguments).mpr ⟨(h.isPlaced hhole).1, hothers⟩, ?_⟩
  intro wanted hwanted hnotable
  rcases mem_preorder_iff.mp hwanted with rfl | ⟨other, hother, hwanted⟩
  · rcases hnotable with hconstruction | hparameters
    · exact absurd hconstruction (Bool.eq_false_iff.mp hlabel)
    · exact absurd hparameters hlist
  · obtain ⟨child, hchild, hcovers⟩ := hcovers other hother
    exact mem_preorder_iff.mpr (Or.inr ⟨child, hchild, hcovers wanted hwanted hnotable⟩)

theorem becomes_of_simpleTarget? (h : tree.NodesPlaced low high)
    (hfound : tree.simpleTarget? = some found) : tree.Becomes low high found := by
  fun_induction simpleTarget? tree with
  | case3 span inner harray hobject ih =>
    exact (ih (h.parts.1 inner List.mem_cons_self) hfound).ofChild List.mem_cons_self
  | case4 | case5 =>
    obtain rfl := Option.some.inj hfound
    exact becomes_self h rfl
  | case6 span children _ hcore | case8 span children _ hcore | case10 span children _ hcore =>
    rw [if_pos hcore] at hfound
    obtain rfl := Option.some.inj hfound
    exact becomes_self h rfl
  | case7 span children _ hcore | case9 span children _ hcore | case11 span children _ hcore =>
    rw [if_neg hcore] at hfound
    cases hfound
  | case1 | case2 | case12 => cases hfound

/-- A tree whose nodes are placed becomes its target. -/
def KeepsPlaces (low high : Nat) (tree : Tree) (target : Option Tree) : Prop :=
  tree.NodesPlaced low high → ∀ found, target = some found → tree.Becomes low high found

/-- Trees whose nodes are placed become their targets. -/
def KeepsAllPlaces (low high : Nat) (trees : List Tree) (targets : Option (List Tree)) : Prop :=
  PartsPlaced low high trees → ∀ found, targets = some found →
    Placed low high found ∧ ∀ made ∈ found, ∃ tree ∈ trees, tree.Covers made

theorem keepsAllPlaces_nil : KeepsAllPlaces low high [] (some []) := by
  intro _ found hfound
  obtain rfl := Option.some.inj hfound
  exact ⟨placed_nil, nofun⟩

/-- A target before others. -/
theorem KeepsAllPlaces.cons {made : Tree} {targets : Option (List Tree)}
    (htargets : KeepsAllPlaces low high trees targets)
    (hmade : tree.NodesPlaced low high → tree.Becomes low high made) :
    KeepsAllPlaces low high (tree :: trees) (do return made :: (← targets)) := by
  intro h found hfound
  obtain ⟨rest, hrest, hfound⟩ := Option.bind_eq_some_iff.mp hfound
  obtain rfl := Option.some.inj hfound
  obtain ⟨htree, hbetween, htrees⟩ := partsPlaced_cons.mp h
  obtain ⟨hmade, hcovers⟩ := hmade htree
  obtain ⟨hplaced, hcoversRest⟩ := htargets htrees rest hrest
  refine ⟨placed_cons.mpr ⟨hmade, fun other hother ↦ ?_, hplaced⟩, ?_⟩
  · obtain ⟨source, hsource, hcoversOther⟩ := hcoversRest other hother
    exact (hbetween source hsource).mono hcovers hcoversOther
  · intro other hother
    rcases List.mem_cons.mp hother with rfl | hother
    · exact ⟨tree, List.mem_cons_self, hcovers⟩
    · obtain ⟨source, hsource, hcoversOther⟩ := hcoversRest other hother
      exact ⟨source, List.mem_cons_of_mem tree hsource, hcoversOther⟩

/-- A target that is made of another one, before others. -/
theorem KeepsAllPlaces.bindCons {target : Option Tree} {make : Tree → Tree}
    {targets : Option (List Tree)} (htargets : KeepsAllPlaces low high trees targets)
    (hmade : tree.NodesPlaced low high → ∀ one, target = some one →
      tree.Becomes low high (make one)) :
    KeepsAllPlaces low high (tree :: trees) (do return make (← target) :: (← targets)) := by
  intro h found hfound
  obtain ⟨one, hone, hfound⟩ := Option.bind_eq_some_iff.mp hfound
  exact htargets.cons (fun htree ↦ hmade htree one hone) h found hfound

/-- A target that is what remains of a node with one child. -/
theorem KeepsPlaces.last {argument : Tree} {target : Option Tree}
    (h : KeepsPlaces low high argument target) :
    KeepsAllPlaces low high [node .spread span [argument]]
      (do return [node .rest span [← target]]) := by
  intro hspread found hfound
  obtain ⟨inner, hinner, hfound⟩ := Option.bind_eq_some_iff.mp hfound
  obtain rfl := Option.some.inj hfound
  have hspread : (node .spread span [argument]).NodesPlaced low high :=
    (partsPlaced_cons.mp hspread).1
  obtain ⟨hplaced, hcovers⟩ := h (hspread.parts.1 argument List.mem_cons_self) inner hinner
  have hremade : (node .spread span [argument]).Becomes low high (node .rest span [inner]) :=
    hspread.remade rfl rfl nofun rfl (placed_singleton.mpr hplaced).parts (by simpa using hcovers)
  exact ⟨placed_singleton.mpr hremade.1, by simpa using hremade.2⟩

/-- A tree that has no target, before others. -/
theorem KeepsAllPlaces.skip {targets : Option (List Tree)}
    (htargets : KeepsAllPlaces low high trees targets) :
    KeepsAllPlaces low high (tree :: trees) targets := by
  intro h found hfound
  obtain ⟨hplaced, hcovers⟩ := htargets (partsPlaced_cons.mp h).2.2 found hfound
  refine ⟨hplaced, fun made hmade ↦ ?_⟩
  obtain ⟨source, hsource, hcoversMade⟩ := hcovers made hmade
  exact ⟨source, List.mem_cons_of_mem tree hsource, hcoversMade⟩

/-- A literal becomes a pattern of what its parts become. -/
theorem KeepsAllPlaces.pattern {pattern : Label} {targets : Option (List Tree)}
    (htargets : KeepsAllPlaces low high trees targets)
    (hhole : (node label span trees).isHole = false) (hlabel : pattern.isConstruction = false)
    (hlist : pattern ≠ .formalParameters) (harguments : pattern.hasArguments = false) :
    KeepsPlaces low high (node label span trees) (do return node pattern span (← targets)) := by
  intro h found hfound
  obtain ⟨parts, hparts, hfound⟩ := Option.bind_eq_some_iff.mp hfound
  obtain rfl := Option.some.inj hfound
  obtain ⟨hplaced, hcovers⟩ := htargets h.parts parts hparts
  exact h.remade hhole hlabel hlist harguments hplaced.parts hcovers

/-- A shorthand becomes a property without its key, which its name is once more. -/
theorem NodesPlaced.withoutKey {key : Tree}
    (h : (node label span (key :: trees)).NodesPlaced low high)
    (hhole : (node label span (key :: trees)).isHole = false) :
    (node label span (key :: trees)).Becomes low high (node .patternProperty span trees) :=
  h.remade hhole rfl nofun rfl (partsPlaced_cons.mp h.parts).2.2
    fun other hother ↦ ⟨other, List.mem_cons_of_mem key hother, .refl other⟩

/-- A property becomes one with what its value becomes. -/
theorem NodesPlaced.withValue {key value one : Tree}
    (h : (node label span [key, value]).NodesPlaced low high)
    (hhole : (node label span [key, value]).isHole = false)
    (hvalue : value.NodesPlaced low high → value.Becomes low high one) :
    (node label span [key, value]).Becomes low high (node .patternProperty span [key, one]) := by
  obtain ⟨hkey, hbetween, hparts⟩ := partsPlaced_cons.mp h.parts
  obtain ⟨hplaced, hcovers⟩ := hvalue (partsPlaced_cons.mp hparts).1
  have hapart : key.Apart one := (hbetween value List.mem_cons_self).mono (.refl key) hcovers
  refine h.remade hhole rfl nofun rfl (by simpa using ⟨hkey, hapart, hplaced.2⟩) ?_
  simpa using ⟨Or.inl (.refl key), Or.inr hcovers⟩

theorem keepsPlaces_targets (low high : Nat) :
    (∀ tree, KeepsPlaces low high tree tree.target?) ∧
      (∀ endsInComma trees, KeepsAllPlaces low high trees (propertyTargets? endsInComma trees)) ∧
      (∀ tree, KeepsPlaces low high tree tree.targetWithDefault?) ∧
      ∀ endsInComma trees, KeepsAllPlaces low high trees (elementTargets? endsInComma trees) := by
  refine target?.mutual_induct _ _ _ _ ?array ?object ?simple ?noProperty ?lateSpread ?spreadProperty
    ?shorthand ?shorthandDefault ?property ?otherProperty ?withDefault ?withoutDefault ?noElement
    ?lateElement ?spreadElement ?hole ?element
  case array =>
    intro endsInComma span elements ih
    rw [target?]
    exact ih.pattern rfl rfl nofun rfl
  case object =>
    intro endsInComma span properties ih
    rw [target?]
    exact ih.pattern rfl rfl nofun rfl
  case simple =>
    intro tree harray hobject h found hfound
    rw [target?.eq_3 tree harray hobject] at hfound
    exact becomes_of_simpleTarget? h hfound
  case noProperty =>
    intro endsInComma
    rw [propertyTargets?]
    exact keepsAllPlaces_nil
  case noElement =>
    intro endsInComma
    rw [elementTargets?]
    exact keepsAllPlaces_nil
  case lateSpread =>
    intro span argument _ found hfound
    rw [propertyTargets?, if_pos rfl] at hfound
    cases hfound
  case lateElement =>
    intro span argument _ _ found hfound
    rw [elementTargets?, if_pos rfl] at hfound
    cases hfound
  case spreadProperty =>
    intro endsInComma span argument hcomma
    rw [propertyTargets?, if_neg hcomma]
    exact KeepsPlaces.last fun h _ hfound ↦ becomes_of_simpleTarget? h hfound
  case shorthand =>
    intro endsInComma span key name rest ih
    rw [propertyTargets?]
    exact ih.cons fun h ↦ h.withoutKey rfl
  case shorthandDefault =>
    intro endsInComma span key name default rest ih
    rw [propertyTargets?]
    exact ih.cons fun h ↦ h.withoutKey rfl
  case property =>
    intro endsInComma span key value rest hvalue ih
    rw [propertyTargets?]
    exact ih.bindCons fun h one hone ↦ h.withValue rfl fun hplaced ↦ hvalue hplaced one hone
  case otherProperty =>
    intro endsInComma head tail hspread hshorthand hdefault hproperty h found hfound
    rw [propertyTargets?.eq_6 endsInComma head tail hspread hshorthand hdefault hproperty] at hfound
    cases hfound
  case withDefault =>
    intro span sides h found hfound
    rw [targetWithDefault?] at hfound
    obtain rfl := Option.some.inj hfound
    exact h.remade rfl rfl nofun rfl h.parts fun side hside ↦ ⟨side, hside, .refl side⟩
  case withoutDefault =>
    intro tree hdefault ih h found hfound
    rw [targetWithDefault?.eq_2 tree hdefault] at hfound
    exact ih h found hfound
  case spreadElement =>
    intro endsInComma span argument hcomma ih
    rw [elementTargets?, if_neg hcomma]
    exact KeepsPlaces.last ih
  case hole =>
    intro endsInComma span children rest ih
    rw [elementTargets?]
    exact ih.skip
  case element =>
    intro endsInComma element rest hspread hhole helement ih
    rw [elementTargets?.eq_4 endsInComma element rest hspread hhole]
    exact ih.bindCons helement

/-- An expression whose nodes are placed becomes its target. -/
theorem becomes_of_target? (h : tree.NodesPlaced low high) (hfound : tree.target? = some found) :
    tree.Becomes low high found :=
  (keepsPlaces_targets low high).1 tree h found hfound

end SsrBuild.Tree
