import SsrBuild.Grammar.Parser
import SsrBuild.Proofs.Grammar.Lexing
import SsrBuild.Proofs.Grammar.Placed
import SsrBuild.Proofs.Outcome

/-!
What a reading that succeeds leaves behind. It goes forward and takes back no complaint
(`State.LeadsTo`), and what is known of its result is stated by `Parser.Ensures`. The rules of the
grammar need one statement of this kind: if the trees given to a rule are placed between an offset and
the token, the trees in its result are placed between that offset and the token after it
(`Parser.Yields`).
-/

set_option autoImplicit false

namespace SsrBuild.Grammar

open SsrBuild.Tree (Placed IsPlaced)

/-- The offset of the token. -/
def State.mark (s : State) : Nat := s.lexeme.start

/-- The token does not begin before the last one has ended, and does not end before it begins. -/
def State.IsOrderly (s : State) : Prop :=
  s.lastStop ≤ s.mark ∧ s.mark ≤ s.lexeme.stop

/-- The second state is one further on in the text, where nothing complained about is forgotten. -/
structure State.LeadsTo (s next : State) : Prop where
  orderly : next.IsOrderly
  le : s.mark ≤ next.mark
  sound : next.sound = true → s.sound = true

theorem State.LeadsTo.refl {s : State} (h : s.IsOrderly) : s.LeadsTo s :=
  ⟨h, Nat.le_refl _, id⟩

theorem State.LeadsTo.trans {first second third : State} (hfirst : first.LeadsTo second)
    (hsecond : second.LeadsTo third) : first.LeadsTo third :=
  ⟨hsecond.orderly, Nat.le_trans hfirst.le hsecond.le, fun h ↦ hfirst.sound (hsecond.sound h)⟩

namespace Parser

variable {α β : Type}

/-- A reading that succeeds in a state with the first property goes forward, and the state that it
leads to and its result have the second one. -/
def Ensures (before : State → Prop) (parser : Parser α) (after : State → α → Prop) : Prop :=
  ∀ (context : Context) (s : State) (result : α) (next : State),
    parser context s = (.ok result, next) → s.IsOrderly → before s →
      s.LeadsTo next ∧ after next result

variable {before : State → Prop} {after : State → α → Prop} {later : State → β → Prop}
  {parser : Parser α} {rest : α → Parser β}

/-! ### General rules -/

/-- After a step that succeeds the reading goes on. -/
theorem bind_of_ok {context : Context} {s middle : State} {value : α}
    (h : parser context s = (.ok value, middle)) :
    (parser >>= rest) context s = rest value context middle :=
  run_bind_of_ok h

/-- A reading in two steps that succeeds has succeeded at the first and then at the second. -/
theorem of_bind_ok {context : Context} {s next : State} {result : β}
    (h : (parser >>= rest) context s = (.ok result, next)) :
    ∃ value middle, parser context s = (.ok value, middle) ∧
      rest value context middle = (.ok result, next) :=
  of_run_bind_ok h

theorem Ensures.bind (hparser : Ensures before parser after)
    (hrest : ∀ result, Ensures (after · result) (rest result) later) :
    Ensures before (parser >>= rest) later := by
  intro context s result next h horderly hbefore
  obtain ⟨value, middle, hfirst, hsecond⟩ := of_bind_ok h
  obtain ⟨hleads, hafter⟩ := hparser context s value middle hfirst horderly hbefore
  obtain ⟨hleadsOn, hlater⟩ :=
    hrest value context middle result next hsecond hleads.orderly hafter
  exact ⟨hleads.trans hleadsOn, hlater⟩

theorem Ensures.pure {result : α} (h : ∀ s : State, s.IsOrderly → before s → after s result) :
    Ensures before (Pure.pure result : Parser α) after := by
  intro context s found next hrun horderly hbefore
  obtain ⟨hresult, rfl⟩ := Prod.mk.inj hrun
  obtain rfl := Except.ok.inj hresult
  exact ⟨.refl horderly, h s horderly hbefore⟩

theorem Ensures.conseq {earlier : State → Prop} {weaker : State → α → Prop}
    (hparser : Ensures before parser after) (hbefore : ∀ s : State, earlier s → before s)
    (hafter : ∀ s result, after s result → weaker s result) : Ensures earlier parser weaker := by
  intro context s result next h horderly hearlier
  obtain ⟨hleads, hresult⟩ := hparser context s result next h horderly (hbefore s hearlier)
  exact ⟨hleads, hafter next result hresult⟩

/-- What holds in a state and in those that it leads to is kept by a reading. -/
theorem Ensures.frame (kept : State → Prop) (hparser : Ensures before parser after)
    (hkept : ∀ s next : State, s.LeadsTo next → kept s → kept next) :
    Ensures (fun s ↦ kept s ∧ before s) parser (fun s result ↦ kept s ∧ after s result) := by
  intro context s result next h horderly hbefore
  obtain ⟨hleads, hafter⟩ := hparser context s result next h horderly hbefore.2
  exact ⟨hleads, hkept s next hleads hbefore.1, hafter⟩

theorem Ensures.within {change : Context → Context} (h : Ensures before parser after) :
    Ensures before (Parser.within change parser) after :=
  fun context ↦ h (change context)

/-! ### Readings whose result has no trees -/

/-- A reading that succeeds goes forward. -/
class Advances (parser : Parser α) : Prop where
  ensures : Ensures (fun _ ↦ True) parser fun _ _ ↦ True

/-- A reading that leaves the state as it is. -/
theorem Advances.of_state_eq (h : ∀ context s, (parser context s).2 = s) : Advances parser where
  ensures := by
    intro context s result next hrun horderly _
    have hstate := h context s
    rw [hrun] at hstate
    obtain rfl : next = s := hstate
    exact ⟨.refl horderly, trivial⟩

instance (result : α) : Advances (Pure.pure result : Parser α) := ⟨.pure fun _ _ _ ↦ trivial⟩

instance [Advances parser] [∀ result, Advances (rest result)] : Advances (parser >>= rest) :=
  ⟨Advances.ensures.bind fun _ ↦ Advances.ensures⟩

theorem Advances.bind (hparser : Advances parser) (hrest : ∀ result, Advances (rest result)) :
    Advances (parser >>= rest) :=
  inferInstance

theorem Advances.step [Advances parser] (hrest : ∀ result, Advances (rest result)) :
    Advances (parser >>= rest) :=
  inferInstance

theorem Advances.ite {condition : Prop} [Decidable condition] {first second : Parser α}
    (hfirst : Advances first) (hsecond : Advances second) :
    Advances (if condition then first else second) := by
  split_ifs
  · exact hfirst
  · exact hsecond

instance (condition : Prop) [Decidable condition] (first second : Parser α) [Advances first]
    [Advances second] : Advances (if condition then first else second) :=
  .ite inferInstance inferInstance

instance : Advances (read : Parser Context) := .of_state_eq fun _ _ ↦ rfl
instance : Advances (get : Parser State) := .of_state_eq fun _ _ ↦ rfl
instance : Advances dialect := .of_state_eq fun _ _ ↦ rfl
instance : Advances hasTypes := .of_state_eq fun _ _ ↦ rfl
instance : Advances lexeme := .of_state_eq fun _ _ ↦ rfl
instance : Advances token := .of_state_eq fun _ _ ↦ rfl
instance : Advances value := .of_state_eq fun _ _ ↦ rfl
instance : Advances onNewLine := .of_state_eq fun _ _ ↦ rfl
instance : Advances mark := .of_state_eq fun _ _ ↦ rfl
instance (wanted : Token) : Advances (sees wanted) := .of_state_eq fun _ _ ↦ rfl
instance (wanted : List Token) : Advances (seesAny wanted) := .of_state_eq fun _ _ ↦ rfl
instance (test : Parser α) : Advances (lookahead test) := .of_state_eq fun _ _ ↦ rfl
instance (test : Parser α) : Advances (peek test) := .of_state_eq fun _ _ ↦ rfl
instance (test : Parser Bool) : Advances (foresees test) := .of_state_eq fun _ _ ↦ rfl
instance (wanted : Token) : Advances (peekSees wanted) := .of_state_eq fun _ _ ↦ rfl
instance : Advances (fail : Parser α) := .of_state_eq fun _ _ ↦ rfl

/-- A change of the state that leads further on. -/
theorem Advances.modify {change : State → State}
    (h : ∀ s : State, s.IsOrderly → s.LeadsTo (change s)) :
    Advances (modify change : Parser Unit) where
  ensures := by
    intro context s result next hrun horderly _
    obtain ⟨-, rfl⟩ := Prod.mk.inj hrun
    exact ⟨h s horderly, trivial⟩

instance : Advances complain :=
  .modify fun _ horderly ↦ ⟨horderly, Nat.le_refl _, fun h ↦ nomatch h⟩

instance (condition : Bool) : Advances (complainIf condition) := by
  unfold complainIf
  infer_instance

instance (condition : Bool) : Advances (failIf condition) := by
  unfold failIf
  infer_instance

/-- A token that is read in another way stands where it stood. -/
theorem Advances.reread {change : Lexeme → Lexeme} (h : Lexeme.KeepsStart change) :
    Advances (reread change) :=
  .modify fun s horderly ↦ by
    obtain ⟨hstart, hstop⟩ := h s.lexeme horderly.2
    refine ⟨⟨?_, ?_⟩, ?_, fun hsound ↦ (Bool.and_eq_true_iff.mp hsound).1⟩
    · exact Nat.le_trans horderly.1 (Nat.le_of_eq hstart.symm)
    · exact Nat.le_trans (Nat.le_of_eq hstart) hstop
    · exact Nat.le_of_eq hstart.symm

instance : Advances (reread Lexeme.asRegex) := .reread Lexeme.keepsStart_asRegex
instance : Advances (reread Lexeme.asTemplate) := .reread Lexeme.keepsStart_asTemplate
instance : Advances (reread Lexeme.asAngleOperator) := .reread Lexeme.keepsStart_asAngleOperator
instance : Advances (reread Lexeme.asOpenAngle) := .reread Lexeme.keepsStart_asOpenAngle
instance : Advances (reread Lexeme.asElementName) := .reread Lexeme.keepsStart_asElementName

theorem Advances.takeBefore {next : Cursor → Lexeme} (h : ∀ here, (next here).IsFrom here.offset) :
    Advances (takeBefore next) :=
  .modify fun s horderly ↦ by
    obtain ⟨hstart, hstop⟩ := h s.lexeme.after
    exact ⟨⟨hstart, hstop⟩, Nat.le_trans horderly.2 hstart,
      fun hsound ↦ (Bool.and_eq_true_iff.mp hsound).1⟩

instance (script : Bool) : Advances (Parser.takeBefore (Lexeme.next script)) :=
  .takeBefore (Lexeme.isFrom_next script)

instance : Advances (Parser.takeBefore Lexeme.nextAttributeValue) :=
  .takeBefore Lexeme.isFrom_nextAttributeValue

instance : Advances (Parser.takeBefore Lexeme.nextElementChild) :=
  .takeBefore Lexeme.isFrom_nextElementChild

instance : Advances takeName := by
  unfold takeName
  infer_instance

instance : Advances take := by
  unfold take
  infer_instance

instance (wanted : Token) : Advances (eat wanted) := by
  unfold eat
  infer_instance

instance (wanted : Token) : Advances (expect wanted) := by
  unfold expect
  infer_instance

/-- A reading that goes forward does not go back before a place. -/
theorem Advances.passes [Advances parser] (place : Nat) :
    Ensures (place ≤ ·.mark) parser fun s _ ↦ place ≤ s.mark := by
  intro context s result next hrun horderly hplace
  obtain ⟨hleads, -⟩ := Advances.ensures context s result next hrun horderly trivial
  exact ⟨hleads, Nat.le_trans hplace hleads.le⟩

/-- A complaint leaves the token as it is. -/
theorem ensures_complainIf (condition : Bool) (part : Lexeme) :
    Ensures (·.lexeme = part) (complainIf condition) fun s _ ↦ s.lexeme = part := by
  intro context s result next hrun horderly hpart
  refine ⟨(Advances.ensures context s result next hrun horderly trivial).1, ?_⟩
  cases condition with
  | false =>
    obtain ⟨-, rfl⟩ := Prod.mk.inj hrun
    exact hpart
  | true =>
    obtain ⟨-, rfl⟩ := Prod.mk.inj hrun
    exact hpart

/-- A token that is taken is the last one taken. -/
theorem ensures_take (part : Lexeme) :
    Ensures (·.lexeme = part) take fun s _ ↦ s.lastStop = part.stop := by
  intro context s result next hrun horderly hpart
  refine ⟨(Advances.ensures context s result next hrun horderly trivial).1, ?_⟩
  obtain ⟨current, same, hcurrent, hrun⟩ := of_bind_ok hrun
  obtain ⟨-, rfl⟩ := Prod.mk.inj hcurrent
  obtain ⟨done, middle, hdone, hrun⟩ := of_bind_ok hrun
  obtain ⟨-, hmiddle⟩ := ensures_complainIf _ part context s done middle hdone horderly hpart
  obtain ⟨-, rfl⟩ := Prod.mk.inj hrun
  exact congrArg Lexeme.stop hmiddle

/-- The token that a leaf is made of ends before what has not been taken. -/
theorem ensures_leaf (part : Lexeme) (label : Label) :
    Ensures (·.lexeme = part) (leaf label) fun s tree ↦
      part.stop ≤ s.mark ∧ ∃ span, tree = .node label span [] := by
  intro context s result next hrun horderly hpart
  obtain ⟨start, same, hstart, hrun⟩ := of_bind_ok hrun
  obtain ⟨-, rfl⟩ := Prod.mk.inj hstart
  obtain ⟨taken, after, htake, hclose⟩ := of_bind_ok hrun
  obtain ⟨hleads, hstop⟩ := ensures_take part context s taken after htake horderly hpart
  obtain ⟨hresult, rfl⟩ := Prod.mk.inj hclose
  obtain rfl := Except.ok.inj hresult
  exact ⟨hleads, hstop ▸ hleads.orderly.1, _, rfl⟩

/-- A token that is taken ends at or after its beginning. -/
theorem ensures_expect (wanted : Token) (place : Nat) :
    Ensures (place ≤ ·.mark) (expect wanted) fun s _ ↦ place ≤ s.lastStop := by
  refine .bind (Advances.passes place) fun stands ↦ ?_
  split_ifs
  · intro context s result next hrun horderly hplace
    obtain ⟨hleads, hstop⟩ := ensures_take s.lexeme context s result next hrun horderly rfl
    exact ⟨hleads, Nat.le_trans (Nat.le_trans hplace horderly.2) (Nat.le_of_eq hstop.symm)⟩
  · exact fun _ _ _ _ hrun ↦ nomatch hrun

instance : Advances mayEnd := by
  unfold mayEnd
  infer_instance

instance : Advances endStatement := by
  unfold endStatement
  infer_instance

/-! ### The rules for trees -/

/-- If the given trees are placed between an offset and the token, so are those in the result of the
reading, up to the token after it. -/
def Yields (low : Nat) (known : List Tree) (parser : Parser α) (trees : α → List Tree) : Prop :=
  Ensures (fun s ↦ low ≤ s.mark ∧ Placed low s.mark known) parser
    fun s result ↦ Placed low s.mark (trees result)

namespace Yields

variable {low : Nat} {known : List Tree} {trees : α → List Tree} {found : β → List Tree}

/-- What is read at the token is apart from the given trees, which end before it. -/
theorem follows {context : Context} {s next : State} {result : α}
    (hparser : Yields s.mark [] parser trees) (hrun : parser context s = (.ok result, next))
    (horderly : s.IsOrderly) (hknown : low ≤ s.mark ∧ Placed low s.mark known) :
    s.LeadsTo next ∧ low ≤ next.mark ∧ Placed low next.mark (known ++ trees result) := by
  obtain ⟨hleads, htrees⟩ := hparser context s result next hrun horderly
    ⟨Nat.le_refl _, Tree.placed_nil⟩
  refine ⟨hleads, Nat.le_trans hknown.1 hleads.le, Tree.placed_append.mpr
    ⟨hknown.2.mono (Nat.le_refl _) hleads.le, htrees.mono hknown.1 (Nat.le_refl _), ?_⟩⟩
  exact fun tree htree other hother ↦ (hknown.2.1 tree htree).apart (htrees.1 other hother)

theorem keeps (hparser : ∀ {place : Nat}, Yields place [] parser trees) :
    Ensures (fun s ↦ low ≤ s.mark ∧ Placed low s.mark known) parser
      fun s result ↦ low ≤ s.mark ∧ Placed low s.mark (known ++ trees result) :=
  fun _ _ _ _ hrun horderly hknown ↦ follows hparser hrun horderly hknown

theorem bind (hparser : ∀ {place : Nat}, Yields place [] parser trees)
    (hrest : ∀ result, Yields low (known ++ trees result) (rest result) found) :
    Yields low known (parser >>= rest) found :=
  (keeps hparser).bind hrest

theorem bindAs (trees : α → List Tree) (hparser : ∀ {place : Nat}, Yields place [] parser trees)
    (hrest : ∀ result, Yields low (known ++ trees result) (rest result) found) :
    Yields low known (parser >>= rest) found :=
  bind hparser hrest

/-- A reading whose result takes the place of the given trees. -/
theorem bindAt (hparser : Yields low known parser trees)
    (hrest : ∀ result, Yields low (trees result) (rest result) found) :
    Yields low known (parser >>= rest) found := by
  have hlow : ∀ s next : State, s.LeadsTo next → low ≤ s.mark → low ≤ next.mark :=
    fun _ _ hleads hle ↦ Nat.le_trans hle hleads.le
  exact ((Ensures.frame _ hparser hlow).conseq (fun _ h ↦ ⟨h.1, h⟩) fun _ _ h ↦ h).bind hrest

/-- A reading that gives nothing leaves the given trees as they are. -/
theorem bindOption {step : Parser (Option α)} {rest : Option α → Parser β}
    (hstep : Yields low known step (·.toList.flatMap trees))
    (hsome : ∀ one, Yields low (trees one) (rest (some one)) found)
    (hnone : Yields low known (rest none) found) : Yields low known (step >>= rest) found := by
  have hkept : ∀ s next : State, s.LeadsTo next → low ≤ s.mark ∧ Placed low s.mark known →
      low ≤ next.mark ∧ Placed low next.mark known := fun s next hleads h ↦
    ⟨Nat.le_trans h.1 hleads.le, h.2.mono (Nat.le_refl _) hleads.le⟩
  refine ((Ensures.frame _ hstep hkept).conseq (fun _ h ↦ ⟨h, h⟩) fun _ _ h ↦ h).bind ?_
  rintro (_ | one)
  · exact hnone.conseq (fun _ h ↦ h.1) fun _ _ h ↦ h
  · exact (hsome one).conseq (fun _ h ↦ ⟨h.1.1, by simpa using h.2⟩) fun _ _ h ↦ h

/-- What is known of a result besides where its trees are. -/
theorem bindWith {fact : α → Prop} (hparser : ∀ {place : Nat}, Yields place [] parser trees)
    (hfact : Ensures (fun _ ↦ True) parser fun _ result ↦ fact result)
    (hrest : ∀ result, fact result → Yields low (known ++ trees result) (rest result) found) :
    Yields low known (parser >>= rest) found := by
  intro context s result next hrun horderly hknown
  obtain ⟨value, middle, hfirst, hsecond⟩ := of_bind_ok hrun
  obtain ⟨hleads, hmiddle⟩ := keeps hparser context s value middle hfirst horderly hknown
  obtain ⟨-, hvalue⟩ := hfact context s value middle hfirst horderly trivial
  obtain ⟨hleadsOn, hfound⟩ :=
    hrest value hvalue context middle result next hsecond hleads.orderly hmiddle
  exact ⟨hleads.trans hleadsOn, hfound⟩

/-- Trees that are placed if the given ones are may be taken for given. -/
theorem knowing (others : List Tree)
    (hothers : ∀ high, Placed low high known → Placed low high others)
    (hparser : Yields low others parser trees) : Yields low known parser trees :=
  hparser.conseq (fun s h ↦ ⟨h.1, hothers s.mark h.2⟩) fun _ _ h ↦ h

/-- What the given trees are placed between may be used. -/
theorem supposing (h : ∀ high, Placed low high known → Yields low known parser trees) :
    Yields low known parser trees :=
  fun context s result next hrun horderly hknown ↦
    h s.mark hknown.2 context s result next hrun horderly hknown

/-- The trees of a result may be told in another way. -/
theorem told {others : α → List Tree} (hparser : Yields low known parser trees)
    (hothers : ∀ high result, Placed low high (trees result) → Placed low high (others result)) :
    Yields low known parser others :=
  hparser.conseq (fun _ h ↦ h) fun s result h ↦ hothers s.mark result h

theorem ret {result : α} (h : ∀ high, Placed low high known → Placed low high (trees result)) :
    Yields low known (Pure.pure result) trees :=
  Ensures.pure fun s _ hknown ↦ h s.mark hknown.2

/-- A result that is known is given on. -/
theorem given {value : α} (h : Yields low known (rest value) found) :
    Yields low known (Pure.pure value >>= rest) found :=
  h

/-- A reading whose result has no trees. -/
theorem step [Advances parser] (hrest : ∀ result, Yields low known (rest result) found) :
    Yields low known (parser >>= rest) found := by
  have hkept : ∀ s next : State, s.LeadsTo next → low ≤ s.mark ∧ Placed low s.mark known →
      low ≤ next.mark ∧ Placed low next.mark known := fun s next hleads h ↦
    ⟨Nat.le_trans h.1 hleads.le, h.2.mono (Nat.le_refl _) hleads.le⟩
  exact ((Ensures.frame _ Advances.ensures hkept).conseq (fun _ h ↦ ⟨h, trivial⟩)
    fun _ _ h ↦ h.1).bind hrest

/-- The offset of the token is not before the first one. -/
theorem mark {rest : Nat → Parser β}
    (h : ∀ start, low ≤ start → Yields low known (rest start) found) :
    Yields low known (Parser.mark >>= rest) found := by
  intro context s result next hrun horderly hknown
  exact h s.mark hknown.1 context s result next hrun horderly hknown

/-- A reading from the token on. -/
theorem markFrom {rest : Nat → Parser β} (h : ∀ start, Yields start [] (rest start) found) :
    Yields low known (Parser.mark >>= rest) found := by
  intro context s result next hrun horderly hknown
  obtain ⟨hleads, hfound⟩ := h s.mark context s result next hrun horderly
    ⟨Nat.le_refl _, Tree.placed_nil⟩
  exact ⟨hleads, hfound.mono hknown.1 (Nat.le_refl _)⟩

/-- A part that is read from the token on, and what follows it. -/
theorem bindFromMark {parser : Nat → Parser α} {rest : Nat → α → Parser β}
    (hparser : ∀ start, Yields start [] (parser start) trees)
    (hrest : ∀ start result, Yields low (known ++ trees result) (rest start result) found) :
    Yields low known (Parser.mark >>= fun start ↦ parser start >>= rest start) found := by
  intro context s result next hrun horderly hknown
  obtain ⟨start, same, hstart, hrun⟩ := of_bind_ok hrun
  obtain ⟨hresult, rfl⟩ := Prod.mk.inj hstart
  obtain rfl := Except.ok.inj hresult
  obtain ⟨value, middle, hfirst, hsecond⟩ := of_bind_ok hrun
  obtain ⟨hleads, hmiddle⟩ := follows (hparser _) hfirst horderly hknown
  obtain ⟨hleadsOn, hfound⟩ :=
    hrest _ value context middle result next hsecond hleads.orderly hmiddle
  exact ⟨hleads.trans hleadsOn, hfound⟩

theorem ite {condition : Prop} [Decidable condition] {first second : Parser α}
    (hfirst : Yields low known first trees) (hsecond : Yields low known second trees) :
    Yields low known (if condition then first else second) trees := by
  split_ifs
  · exact hfirst
  · exact hsecond

/-- A part that may be missing, and what follows it. -/
theorem part {condition : Prop} [Decidable condition] {some? : Parser Tree}
    {rest : List Tree → Parser β} (hsome : ∀ {place : Nat}, Yields place [] some? ([·]))
    (hrest : ∀ part, Yields low (known ++ part) (rest part) found) :
    Yields low known (if condition then (do let part ← Pure.pure [← some?]; rest part)
      else (do let part ← Pure.pure []; rest part)) found :=
  .ite (.bind hsome fun one ↦ hrest [one]) (.knowing (known ++ []) (by simp) (hrest []))

/-- A choice between readings without trees, and what follows it. -/
theorem choice {γ : Type} {condition : Prop} [Decidable condition] {first second : Parser γ}
    [Advances first] [Advances second] {rest : γ → Parser β}
    (hrest : ∀ result, Yields low known (rest result) found) :
    Yields low known (if condition then first >>= rest else second >>= rest) found :=
  .ite (.step hrest) (.step hrest)

theorem fail : Yields low known (Parser.fail : Parser α) trees :=
  fun _ _ _ _ hrun ↦ nomatch hrun

theorem failed : Yields low known (Parser.fail >>= rest) found :=
  fun _ _ _ _ hrun ↦ nomatch hrun

theorem within {change : Context → Context} (h : Yields low known parser trees) :
    Yields low known (Parser.within change parser) trees :=
  Ensures.within h

/-- A node from an offset to the last token taken, whose arguments come one after the other. -/
theorem closeArguments {start : Nat} {label : Label} {children : List Tree} (hstart : low ≤ start)
    (harguments : ∀ span, (Tree.node label span children).arguments.Pairwise Tree.Precedes)
    (h : ∀ high, Placed low high known → Tree.PartsPlaced low high children) :
    Yields low known (Parser.close start label children) ([·]) := by
  intro context s result next hrun horderly hknown
  obtain ⟨hresult, rfl⟩ := Prod.mk.inj hrun
  obtain rfl := Except.ok.inj hresult
  exact ⟨.refl horderly, Tree.placed_singleton.mpr (Tree.isPlaced_iff.mpr
    ⟨⟨hstart, horderly.1⟩, h _ hknown.2, harguments _⟩)⟩

/-- A node from an offset to the last token taken, whose children may be holes. -/
theorem closeParts {start : Nat} {label : Label} {children : List Tree}
    (hlabel : label.hasArguments = false) (hstart : low ≤ start)
    (h : ∀ high, Placed low high known → Tree.PartsPlaced low high children) :
    Yields low known (Parser.close start label children) ([·]) :=
  .closeArguments hstart (by simp [Tree.arguments_of_label hlabel]) h

/-- A node from an offset to the last token taken. -/
theorem close {start : Nat} {label : Label} {children : List Tree}
    (hlabel : label.hasArguments = false) (hstart : low ≤ start)
    (h : ∀ high, Placed low high known → Placed low high children) :
    Yields low known (Parser.close start label children) ([·]) :=
  .closeParts hlabel hstart fun high hknown ↦ (h high hknown).parts

/-- A node from an offset to the last token taken, after given trees that it may lie around. -/
theorem wrap {start : Nat} {label : Label} {children : List Tree} (before : List Tree)
    (hstart : low ≤ start) (hlabel : label.isConstruction = false) (hlist : label ≠ .formalParameters)
    (harguments : label.hasArguments = false)
    (h : ∀ high, Placed low high known → Placed low high (before ++ children)) :
    Yields low known (Parser.close start label children) (before ++ [·]) := by
  intro context s result next hrun horderly hknown
  obtain ⟨hresult, rfl⟩ := Prod.mk.inj hrun
  obtain rfl := Except.ok.inj hresult
  obtain ⟨hbefore, hchildren, hbetween⟩ := Tree.placed_append.mp (h _ hknown.2)
  have hnode : (Tree.node label ⟨start, s.lastStop⟩ children).IsPlaced low s.mark :=
    (Tree.isPlaced_node_iff harguments).mpr ⟨⟨hstart, horderly.1⟩, hchildren.parts⟩
  refine ⟨.refl horderly, Tree.placed_append.mpr ⟨hbefore, Tree.placed_singleton.mpr hnode, ?_⟩⟩
  intro tree htree other hother
  obtain rfl := List.mem_singleton.mp hother
  exact (Tree.apart_node_of_children hlabel hlist fun child hchild ↦
    (hbetween tree htree child hchild).symm).symm

/-- A span from an offset to the last token taken. -/
theorem spanFrom {start : Nat} {rest : Text.Span → Parser β} (hstart : low ≤ start)
    (h : ∀ stop, Yields low (known ++ [.node .other ⟨start, stop⟩ []]) (rest ⟨start, stop⟩) found) :
    Yields low known (Parser.spanFrom start >>= rest) found := by
  intro context s result next hrun horderly hknown
  exact h s.lastStop context s result next hrun horderly ⟨hknown.1, by
      simpa using ⟨hknown.2, hstart, horderly.1⟩⟩

theorem leaf {label : Label} : Yields low known (Parser.leaf label) ([·]) :=
  .mark fun _ hstart ↦ .step fun _ ↦ .closeArguments hstart
    (by simp [Tree.arguments_leaf]) fun _ _ ↦ Tree.partsPlaced_nil

/-- A trial that fails gives no trees. -/
theorem attempt (h : Yields low known parser trees) :
    Yields low known (Parser.attempt parser) (·.toList.flatMap trees) := by
  intro context s result next hrun horderly hknown
  unfold Parser.attempt at hrun
  split at hrun
  · next value after hparser =>
    obtain ⟨hresult, rfl⟩ := Prod.mk.inj hrun
    obtain rfl := Except.ok.inj hresult
    obtain ⟨hleads, htrees⟩ := h context s value after hparser horderly hknown
    exact ⟨hleads, by simpa using htrees⟩
  · next error after hparser =>
    obtain ⟨hresult, rfl⟩ := Prod.mk.inj hrun
    obtain rfl := Except.ok.inj hresult
    exact ⟨⟨horderly, Nat.le_refl _, id⟩, Tree.placed_nil⟩

/-! ### Repetition -/

theorem repeatUpTo {step : Parser (Option α)}
    (hstep : ∀ {place : Nat}, Yields place [] step (·.toList.flatMap trees)) (count : Nat) :
    ∀ done : List α, Yields low (done.reverse.flatMap trees) (Parser.repeatUpTo step count done)
      (·.flatMap trees) := by
  induction count with
  | zero => exact fun _ ↦ .fail
  | succ count ih =>
    intro done
    refine bind hstep ?_
    rintro (_ | one)
    · exact ret (by simp)
    · exact .knowing ((one :: done).reverse.flatMap trees) (by simp) (ih (one :: done))

/-- A step that is repeated gives the trees of every time. -/
theorem many {step : Parser (Option α)}
    (hstep : ∀ {place : Nat}, Yields place [] step (·.toList.flatMap trees)) :
    Yields low known (Parser.many step) (·.flatMap trees) :=
  .step fun context ↦ .knowing [] (by simp) (repeatUpTo hstep context.limit [])

/-- A value that is changed step by step has trees that are placed. -/
theorem iterate (trees : α → List Tree) {step : α → Parser (Option α)} {first : α}
    (hstep : ∀ current, Yields low (trees current) (step current) (·.toList.flatMap trees))
    (hfirst : ∀ high, Placed low high known → Placed low high (trees first)) :
    Yields low known (Parser.iterate step first) trees := by
  have hsteps : ∀ count current, Yields low (trees current)
      (Parser.iterateUpTo step count current) trees := by
    intro count
    induction count with
    | zero => exact fun _ ↦ .fail
    | succ count ih =>
      intro current
      exact .bindOption (hstep current) ih (.ret fun _ h ↦ h)
  exact .step fun context ↦ .knowing (trees first) hfirst (hsteps context.limit first)

theorem upTo {closing : Token} {item : Parser α}
    (hitem : ∀ {place : Nat}, Yields place [] item trees) :
    Yields low known (Parser.upTo closing item) (·.flatMap trees) :=
  .many (.step fun _ ↦ .ite (.ret fun _ _ ↦ Tree.placed_nil) (.bind hitem fun _ ↦ .ret (by simp)))

/-- Items with a mark before each of them. -/
theorem manyAfter {before : Token} {item : Parser α}
    (hitem : ∀ {place : Nat}, Yields place [] item trees) :
    Yields low known (Parser.many do
      if ← eat before then return some (← item) else return none) (·.flatMap trees) :=
  .many (.step fun _ ↦ .ite (.bind hitem fun _ ↦ .ret (by simp)) (.ret fun _ _ ↦ Tree.placed_nil))

theorem separated {separator closing : Token} {item : Parser α}
    (hitem : ∀ {place : Nat}, Yields place [] item trees) :
    Yields low known (Parser.separated separator closing item) (·.1.flatMap trees) := by
  refine .knowing [] (by simp) (.step fun _ ↦ .ite (.ret fun _ _ ↦ Tree.placed_nil)
    (.bind hitem fun first ↦ ?_))
  refine .bindAt (.iterate (fun result : List α × Bool ↦ result.1.reverse.flatMap trees)
    ?_ (by simp)) ?_
  · rintro ⟨done, trailing⟩
    exact .step fun _ ↦ .ite (.ret fun _ _ ↦ Tree.placed_nil) (.step fun _ ↦ .step fun _ ↦
      .ite (.ret (by simp)) (.bind hitem fun one ↦ .ret (by simp)))
  · rintro ⟨done, trailing⟩
    exact .ret (by simp)

theorem commaList {closing : Token} {item : Parser α}
    (hitem : ∀ {place : Nat}, Yields place [] item trees) :
    Yields low known (Parser.commaList closing item) (·.flatMap trees) :=
  .bindAt (.separated hitem) fun ⟨done, trailing⟩ ↦ .ret (by simp)

/-! ### Lists of trees -/

theorem manyTrees {step : Parser (Option Tree)}
    (hstep : ∀ {place : Nat}, Yields place [] step (·.toList.flatMap ([·]))) :
    Yields low known (Parser.many step) id :=
  (many hstep).told (by simp)

theorem treesAfter {before : Token} {item : Parser Tree}
    (hitem : ∀ {place : Nat}, Yields place [] item ([·])) :
    Yields low known (Parser.many do
      if ← eat before then return some (← item) else return none) id :=
  (manyAfter hitem).told (by simp)

theorem treesUpTo {closing : Token} {item : Parser Tree}
    (hitem : ∀ {place : Nat}, Yields place [] item ([·])) :
    Yields low known (Parser.upTo closing item) id :=
  (upTo hitem).told (by simp)

theorem treesWithCommas {closing : Token} {item : Parser Tree}
    (hitem : ∀ {place : Nat}, Yields place [] item ([·])) :
    Yields low known (Parser.commaList closing item) id :=
  (commaList hitem).told (by simp)

/-- A reading that gives trees goes forward. -/
theorem advances (h : Yields 0 [] parser trees) : Advances parser :=
  ⟨h.conseq (fun s _ ↦ ⟨Nat.zero_le s.mark, Tree.placed_nil⟩) fun _ _ _ ↦ trivial⟩

theorem of_advances [Advances parser] : Yields low known parser fun _ ↦ [] :=
  Advances.ensures.conseq (fun _ _ ↦ trivial) fun _ _ _ ↦ Tree.placed_nil

/-- A result without trees of its own has those that are placed in any case. -/
theorem of_advances_option {step : Parser (Option α)} [Advances step] :
    Yields low known step (·.toList.flatMap fun _ ↦ []) :=
  of_advances.told fun _ result _ ↦ by cases result <;> simp

end Yields

theorem Advances.iterate {step : α → Parser (Option α)} (hstep : ∀ current, Advances (step current))
    (first : α) : Advances (iterate step first) :=
  (Yields.iterate (fun _ ↦ []) (fun _ ↦ .of_advances_option) fun _ _ ↦ Tree.placed_nil).advances

instance (step : Parser (Option α)) [Advances step] : Advances (many step) :=
  (Yields.many .of_advances_option).advances

/-! ### Trees one after the other -/

/-- What every step keeps is kept by a value that is changed step by step. -/
theorem Ensures.iterate (kept : State → α → Prop) {step : α → Parser (Option α)}
    (hstep : ∀ current, Ensures (kept · current) (step current)
      fun s next ↦ kept s (next.getD current)) (first : α) :
    Ensures (kept · first) (Parser.iterate step first) kept := by
  have hsteps : ∀ count current, Ensures (kept · current)
      (Parser.iterateUpTo step count current) kept := by
    intro count
    induction count with
    | zero => exact fun _ _ _ _ _ hrun ↦ nomatch hrun
    | succ count ih =>
      intro current
      refine (hstep current).bind fun
        | some next => ih next
        | none => .pure fun _ _ h ↦ h
  intro context
  exact hsteps context.limit first context

/-- The trees come one after the other, the last one first, and all of them end before the token. -/
def EndRow (s : State) (trees : List Tree) : Prop :=
  (trees.Pairwise fun later earlier ↦ earlier.Precedes later) ∧
    ∀ tree ∈ trees, tree.span.stop ≤ s.mark

/-- What does not go back leaves them before the token. -/
theorem Advances.keepsRow {parser : Parser α} [Advances parser] (trees : List Tree) :
    Ensures (EndRow · trees) parser fun s _ ↦ EndRow s trees := by
  intro context s result next hrun horderly ⟨horder, hstop⟩
  obtain ⟨hleads, -⟩ := Advances.ensures context s result next hrun horderly trivial
  exact ⟨hleads, horder, fun tree htree ↦ Nat.le_trans (hstop tree htree) hleads.le⟩

/-- One more tree begins at the token or later. -/
theorem ensures_item {item : Parser Tree} (hitem : ∀ {place : Nat}, Yields place [] item ([·]))
    (trees : List Tree) :
    Ensures (EndRow · trees) item fun s tree ↦ EndRow s (tree :: trees) := by
  intro context s tree next hrun horderly ⟨horder, hstop⟩
  obtain ⟨hleads, htree⟩ := hitem context s tree next hrun horderly
    ⟨Nat.le_refl _, Tree.placed_nil⟩
  obtain ⟨hstart, hle⟩ := (Tree.placed_singleton.mp htree).1
  refine ⟨hleads, List.pairwise_cons.mpr ⟨fun earlier hearlier ↦ ?_, horder⟩,
    List.forall_mem_cons.mpr ⟨hle, fun earlier hearlier ↦ ?_⟩⟩
  · exact Nat.le_trans (hstop earlier hearlier) hstart
  · exact Nat.le_trans (hstop earlier hearlier) hleads.le

/-- Trees with separators between them come one after the other. -/
theorem ensures_separated {separator closing : Token} {item : Parser Tree}
    (hitem : ∀ {place : Nat}, Yields place [] item ([·])) :
    Ensures (fun _ ↦ True) (separated separator closing item) fun _ result ↦
      result.1.Pairwise Tree.Precedes := by
  have hnone : ∀ s, EndRow s [] := fun s ↦ ⟨List.Pairwise.nil, nofun⟩
  refine Advances.ensures.bind fun isEnd ↦ ?_
  split_ifs
  · exact .pure fun _ _ _ ↦ List.Pairwise.nil
  refine ((ensures_item hitem []).conseq (fun s _ ↦ hnone s) fun _ _ h ↦ h).bind fun first ↦ ?_
  refine (Ensures.iterate (fun s result ↦ EndRow s result.1) ?_ ([first], false)).bind ?_
  · rintro ⟨found, trailing⟩
    refine (Advances.keepsRow found).bind fun isEnd ↦ ?_
    split_ifs
    · exact .pure fun _ _ h ↦ h
    refine (Advances.keepsRow found).bind fun _ ↦ (Advances.keepsRow found).bind fun isEnd ↦ ?_
    split_ifs
    · exact .pure fun _ _ h ↦ h
    · exact (ensures_item hitem found).bind fun one ↦ .pure fun _ _ h ↦ h
  · exact fun result ↦ .pure fun _ _ h ↦ List.pairwise_reverse.mpr h.1

/-- And so do trees with commas between them. -/
theorem ensures_commaList {closing : Token} {item : Parser Tree}
    (hitem : ∀ {place : Nat}, Yields place [] item ([·])) :
    Ensures (fun _ ↦ True) (commaList closing item) fun _ trees ↦ trees.Pairwise Tree.Precedes :=
  (ensures_separated hitem).bind fun _ ↦ .pure fun _ _ h ↦ h

end Parser

/-- A goal asks for no node that begins before the offset. -/
def Goal.StartsFrom (low : Nat) : Goal → Prop
  | .operand start => low ≤ start
  | _ => True

/-- The readings of all goals give trees that are placed. -/
def PlacesGoals (parse : Goal → Parser Tree) : Prop :=
  ∀ {low : Nat} {known : List Tree} {goal : Goal}, goal.StartsFrom low →
    Parser.Yields low known (parse goal) ([·])

end SsrBuild.Grammar
