import SsrBuild.Grammar.Name
import SsrBuild.Proofs.Grammar.Reading

/-!
Readings at a known place. If the token at a place and the place after it are known
(`Cursor.Begins`), a question about the token or about the one after it has a known answer, and a
reading that takes the token goes from one place to the other. A complaint about what follows is not
taken back (`Advances.unsound`).
-/

set_option autoImplicit false

namespace SsrBuild.Grammar

/-- The token is the one after the position. -/
def State.StandsAt (here : Cursor) (s : State) : Prop :=
  ∃ script, s.lexeme = Lexeme.next script here

/-- In a module and in a script this is the token after the position, and it ends where the other
position is. -/
def Cursor.Begins (here : Cursor) (token : Token) (there : Cursor) : Prop :=
  ∀ script, (Lexeme.next script here).token = token ∧ (Lexeme.next script here).after = there

variable {here there further : Cursor} {first second : Token} {s : State} {context : Context}

theorem State.StandsAt.token (hstands : s.StandsAt here) (h : here.Begins first there) :
    s.lexeme.token = first := by
  obtain ⟨script, hlexeme⟩ := hstands
  rw [hlexeme, (h script).1]

theorem State.StandsAt.after (hstands : s.StandsAt here) (h : here.Begins first there) :
    s.lexeme.after = there := by
  obtain ⟨script, hlexeme⟩ := hstands
  rw [hlexeme, (h script).2]

namespace Parser

variable {α β : Type} {before : State → Prop} {later : State → β → Prop} {parser : Parser α}
  {rest : α → Parser β}

/-! ### Questions -/

/-- A reading that leaves the state as it is and whose result does not matter. -/
theorem Ensures.read (h : ∀ context s, (parser context s).2 = s)
    (hrest : ∀ result, Ensures before (rest result) later) :
    Ensures before (parser >>= rest) later := by
  have hparser : Ensures before parser fun s _ ↦ before s := by
    intro context s result next hrun horderly hbefore
    have hstate := h context s
    rw [hrun] at hstate
    obtain rfl : next = s := hstate
    exact ⟨.refl horderly, hbefore⟩
  exact hparser.bind hrest

/-- A reading that leaves the state as it is and whose result is known. -/
theorem Ensures.known {value : α} (h : ∀ context s, before s → parser context s = (.ok value, s))
    (hrest : Ensures before (rest value) later) : Ensures before (parser >>= rest) later := by
  intro context s result next hrun horderly hbefore
  rw [bind_of_ok (h context s hbefore)] at hrun
  exact hrest context s result next hrun horderly hbefore

theorem token_eq (h : here.Begins first there) (hstands : s.StandsAt here) :
    token context s = (.ok first, s) := by
  show (Except.ok s.lexeme.token, s) = _
  rw [hstands.token h]

theorem sees_eq (wanted : Token) (h : here.Begins first there) (hstands : s.StandsAt here) :
    sees wanted context s = (.ok (first == wanted), s) := by
  show (Except.ok (s.lexeme.token == wanted), s) = _
  rw [hstands.token h]

theorem seesAny_eq (wanted : List Token) (h : here.Begins first there)
    (hstands : s.StandsAt here) : seesAny wanted context s = (.ok (wanted.contains first), s) := by
  show (Except.ok (wanted.contains s.lexeme.token), s) = _
  rw [hstands.token h]

/-- The token after the next one is known as well. -/
theorem token_next_eq (script : Bool) (h : here.Begins first there)
    (hthere : there.Begins second further) (hstands : s.StandsAt here) :
    (Lexeme.next script s.lexeme.after).token = second := by
  rw [hstands.after h, (hthere script).1]

theorem peekSees_eq (wanted : Token) (h : here.Begins first there)
    (hthere : there.Begins second further) (hstands : s.StandsAt here) :
    peekSees wanted context s = (.ok (second == wanted), s) := by
  show (Except.ok ((Lexeme.next (!context.dialect.isModule) s.lexeme.after).token == wanted), s) = _
  rw [token_next_eq _ h hthere hstands]

theorem foresees_seesAny_eq (wanted : List Token) (h : here.Begins first there)
    (hthere : there.Begins second further) (hstands : s.StandsAt here) :
    foresees (do takeName; seesAny wanted) context s = (.ok (wanted.contains second), s) := by
  show (Except.ok
    (wanted.contains (Lexeme.next (!context.dialect.isModule) s.lexeme.after).token), s) = _
  rw [token_next_eq _ h hthere hstands]

/-! ### Taking a token -/

/-- A reading that goes forward does not make up for a complaint. -/
theorem Advances.unsound (h : Advances parser) :
    Ensures (·.sound = false) parser fun s _ ↦ s.sound = false := by
  intro context s result next hrun horderly hunsound
  obtain ⟨hleads, -⟩ := h.ensures context s result next hrun horderly trivial
  refine ⟨hleads, Bool.eq_false_iff.mpr fun hsound ↦ ?_⟩
  rw [hleads.sound hsound] at hunsound
  cases hunsound

/-- Steps that are repeated go forward if one does. -/
theorem Advances.repeatUpTo (step : Parser (Option α)) [Advances step] (count : Nat) :
    ∀ found : List α, Advances (repeatUpTo step count found) := by
  induction count with
  | zero => exact fun _ ↦ inferInstanceAs (Advances fail)
  | succ count ih =>
    refine fun found ↦ Advances.step fun one ↦ ?_
    cases one with
    | none => exact inferInstanceAs (Advances (pure _))
    | some one => exact ih (one :: found)

theorem ensures_fail : Ensures before (fail : Parser β) later := fun _ _ _ _ hrun ↦ nomatch hrun

theorem ensures_close {start : Nat} {label : Label} {children : List Tree} :
    Ensures before (close start label children) fun s _ ↦ before s := by
  intro context s result next hrun horderly hbefore
  obtain ⟨-, rfl⟩ := Prod.mk.inj hrun
  exact ⟨.refl horderly, hbefore⟩

theorem ensures_takeName (h : here.Begins first there) :
    Ensures (·.StandsAt here) takeName fun s _ ↦ s.StandsAt there := by
  intro context s result next hrun horderly hstands
  refine ⟨(Advances.ensures context s result next hrun horderly trivial).1, ?_⟩
  obtain ⟨-, rfl⟩ := Prod.mk.inj hrun
  exact ⟨!context.dialect.isModule, congrArg (Lexeme.next _) (hstands.after h)⟩

/-- Where no token follows, the reading complains. -/
theorem ensures_takeName_unsound (h : here.Begins first there)
    (hbroken : ∀ script, (Lexeme.next script there).sound = false) :
    Ensures (·.StandsAt here) takeName fun s _ ↦ s.sound = false := by
  intro context s result next hrun horderly hstands
  refine ⟨(Advances.ensures context s result next hrun horderly trivial).1, ?_⟩
  obtain ⟨-, rfl⟩ := Prod.mk.inj hrun
  show (s.sound && (Lexeme.next (!context.dialect.isModule) s.lexeme.after).sound) = false
  rw [hstands.after h, hbroken, Bool.and_false]

/-- A complaint does not move on. -/
theorem ensures_complainIf_standsAt (condition : Bool) :
    Ensures (·.StandsAt here) (complainIf condition) fun s _ ↦ s.StandsAt here := by
  intro context s result next hrun horderly hstands
  obtain ⟨hleads, hlexeme⟩ :=
    ensures_complainIf condition s.lexeme context s result next hrun horderly rfl
  exact ⟨hleads, hstands.imp fun _ h ↦ hlexeme.trans h⟩

/-- A token that is taken for what it means is taken for what it spells. -/
theorem Ensures.take {after : State → Unit → Prop} (h : Ensures (·.StandsAt here) takeName after) :
    Ensures (·.StandsAt here) take after :=
  .read (fun _ _ ↦ rfl) fun _ ↦ .bind (ensures_complainIf_standsAt _) fun _ ↦ h

theorem ensures_takeToken (h : here.Begins first there) :
    Ensures (·.StandsAt here) Parser.take fun s _ ↦ s.StandsAt there :=
  .take (ensures_takeName h)

theorem ensures_expectToken (wanted : Token) (h : here.Begins first there) :
    Ensures (·.StandsAt here) (expect wanted) fun s _ ↦ s.StandsAt there := by
  refine .read (fun _ _ ↦ rfl) fun stands ↦ ?_
  split_ifs
  · exact ensures_takeToken h
  · exact ensures_fail

theorem ensures_stringLiteral (h : here.Begins first there) :
    Ensures (·.StandsAt here) stringLiteral fun s _ ↦ s.StandsAt there := by
  refine .read (fun _ _ ↦ rfl) fun stands ↦ ?_
  split_ifs
  · exact .read (fun _ _ ↦ rfl) fun _ ↦ .bind (ensures_takeToken h) fun _ ↦ ensures_close
  · exact ensures_fail

theorem ensures_bindingIdentifier (h : here.Begins first there) :
    Ensures (·.StandsAt here) bindingIdentifier fun s _ ↦ s.StandsAt there := by
  refine .read (fun _ _ ↦ rfl) fun word ↦ ?_
  split_ifs
  · refine .read (fun _ _ ↦ rfl) fun mayRefer ↦ .bind (ensures_complainIf_standsAt _) fun _ ↦ ?_
    exact .read (fun _ _ ↦ rfl) fun _ ↦ .read (fun _ _ ↦ rfl) fun _ ↦
      .bind (ensures_takeName h) fun _ ↦ ensures_close
  · exact ensures_fail

end Parser

end SsrBuild.Grammar
