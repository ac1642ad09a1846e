import SsrBuild.Entry.PerRequest
import SsrBuild.Proofs.Grammar.KnownTokens
import SsrBuild.Proofs.Grammar.ProgramPlaces

/-!
The line that is put before an entry module, as the grammar reads it. In every dialect the reading
goes from token to token up to the end of the line (`ensures_importDeclaration`), and then the module
begins in the middle of a text. What is no token there is refused (`parseProgram_importLine_append`).
-/

set_option autoImplicit false

namespace SsrBuild.Entry

open Grammar Grammar.Parser

/-! ### The tokens of the line -/

/-- The characters of the line. -/
def importLetters : List Char :=
  ['i', 'm', 'p', 'o', 'r', 't', ' ', 'i', 'n', 'i', 't', 'A', 'p', 'p', ' ', 'f', 'r', 'o', 'm', ' ',
    '\x27', '@', 'u', 'v', 'u', 'e', '/', 'c', 'o', 'r', 'e', '/', 'l', 'i', 'b', '/', 'i', 'n', 'i',
    't', 'A', 'p', 'p', '\x27', ';', '\n']

theorem importLine_eq : importLine = importLetters := by decide +kernel

/-- The position after some characters of the line, with a text after it. -/
def importPlace (text : List Char) (count : Nat) : Cursor :=
  ⟨count, importLetters.drop count ++ text⟩

variable (text : List Char)

theorem begins_import : (importPlace text 0).Begins .kwImport (importPlace text 6) := by
  rintro (_ | _) <;> exact ⟨rfl, rfl⟩

theorem begins_name : (importPlace text 6).Begins .name (importPlace text 14) := by
  rintro (_ | _) <;> exact ⟨rfl, rfl⟩

theorem begins_from : (importPlace text 14).Begins .kwFrom (importPlace text 19) := by
  rintro (_ | _) <;> exact ⟨rfl, rfl⟩

theorem begins_source : (importPlace text 19).Begins .string (importPlace text 44) := by
  rintro (_ | _) <;> exact ⟨rfl, rfl⟩

theorem begins_semicolon : (importPlace text 44).Begins .semicolon (importPlace text 45) := by
  rintro (_ | _) <;> exact ⟨rfl, rfl⟩

/-! ### The reading of the line -/

variable {text} {s : State} {context : Context}

/-- The name that is imported is no mark. -/
theorem importHead_eq (hstands : s.StandsAt (importPlace text 6)) :
    importHead context s = (.ok .plain, s) :=
  (bind_of_ok (token_eq (begins_name text) hstands)).trans rfl

/-- It is not the name of an alias. -/
theorem seesAlias_eq (hstands : s.StandsAt (importPlace text 6)) :
    seesAlias context s = (.ok false, s) := by
  show (if context.dialect.hasTypes && s.lexeme.token.isBindingIdentifier then peekSees .assign
    else pure false : Parser Bool) context s = _
  split_ifs
  · exact peekSees_eq .assign (begins_name text) (begins_from text) hstands
  · rfl

/-- One name is imported. -/
theorem ensures_importClause : Ensures (·.StandsAt (importPlace text 6)) (importClause .plain)
    fun s _ ↦ s.StandsAt (importPlace text 14) := by
  have hdefault : Ensures (·.StandsAt (importPlace text 6)) defaultImport
      fun s _ ↦ s.StandsAt (importPlace text 14) :=
    .read (fun _ _ ↦ rfl) fun _ ↦
      .bind (ensures_bindingIdentifier (begins_name text)) fun _ ↦ ensures_close
  have hcomma : ∀ context s, State.StandsAt (importPlace text 14) s →
      eat .comma context s = (.ok false, s) := fun context s hstands ↦
    (bind_of_ok (sees_eq .comma (begins_from text) hstands)).trans rfl
  refine .known (fun _ _ ↦ token_eq (begins_name text)) (.bind hdefault fun bound ↦ ?_)
  exact .known hcomma (.pure fun _ _ hstands ↦ hstands)

/-- No attributes follow. -/
theorem importAttributes?_eq (hstands : s.StandsAt (importPlace text 44)) :
    importAttributes? context s = (.ok [], s) := by
  have hwith : sees .kwWith context s = (.ok false, s) :=
    sees_eq .kwWith (begins_semicolon text) hstands
  have hassert : sees .kwAssert context s = (.ok false, s) :=
    sees_eq .kwAssert (begins_semicolon text) hstands
  unfold importAttributes?
  rw [bind_of_ok hwith, bind_of_ok hassert]
  rfl

/-- The line ends, and what follows it is read. -/
theorem ensures_endStatement
    (hbroken : ∀ script, (Lexeme.next script (importPlace text 45)).sound = false) :
    Ensures (·.StandsAt (importPlace text 44)) endStatement fun s _ ↦ s.sound = false := by
  have hends : ∀ context s, State.StandsAt (importPlace text 44) s →
      mayEnd context s = (.ok true, s) := fun context s hstands ↦
    (bind_of_ok (seesAny_eq _ (begins_semicolon text) hstands)).trans rfl
  have htake : Ensures (·.StandsAt (importPlace text 44)) take fun s _ ↦ s.sound = false :=
    .take (ensures_takeName_unsound (begins_semicolon text) hbroken)
  have heat : Ensures (·.StandsAt (importPlace text 44)) (eat .semicolon)
      fun s _ ↦ s.sound = false :=
    .known (fun _ _ ↦ sees_eq .semicolon (begins_semicolon text))
      (.bind htake fun _ ↦ .pure fun _ _ h ↦ h)
  exact .known hends (.bind heat fun _ ↦ .pure fun _ _ h ↦ h)

/-- The line is read as an import, and then what follows it. -/
theorem ensures_importDeclaration
    (hbroken : ∀ script, (Lexeme.next script (importPlace text 45)).sound = false) :
    Ensures (·.StandsAt (importPlace text 0)) importDeclaration fun s _ ↦ s.sound = false := by
  refine .read (fun _ _ ↦ rfl) fun start ↦ .bind (ensures_takeToken (begins_import text)) fun _ ↦ ?_
  refine .known (fun _ _ ↦ importHead_eq) (.known (fun _ _ ↦ seesAlias_eq) ?_)
  refine .known (fun _ _ ↦ sees_eq .string (begins_name text)) ?_
  refine .bind ensures_importClause fun bound ↦ ?_
  refine .bind (ensures_expectToken .kwFrom (begins_from text)) fun _ ↦ .read (fun _ _ ↦ rfl) ?_
  refine fun bound ↦ .bind (ensures_stringLiteral (begins_source text)) fun source ↦ ?_
  refine .known (fun _ _ ↦ importAttributes?_eq) (.bind (ensures_endStatement hbroken) fun _ ↦ ?_)
  exact ensures_close

/-- As a statement the line is an import. -/
theorem ensures_statement (parse : Goal → Parser Tree)
    (hbroken : ∀ script, (Lexeme.next script (importPlace text 45)).sound = false) :
    Ensures (·.StandsAt (importPlace text 0)) (statement parse false) fun s _ ↦ s.sound = false :=
  .read (fun _ _ ↦ rfl) fun _ ↦ .known (fun _ _ ↦ token_eq (begins_import text))
    (.known (fun _ _ ↦ foresees_seesAny_eq _ (begins_import text) (begins_name text))
      (ensures_importDeclaration hbroken))

/-- The next statement of a program, if there is one. -/
def nextStatement (depth : Nat) : Parser (Option Tree) := do
  if ← sees .endOfText then return none else return some (← parseGoal depth (.statement false))

/-- No statements follow the line if no token does. -/
theorem ensures_statements (depth : Nat)
    (hbroken : ∀ script, (Lexeme.next script (importPlace text 45)).sound = false) :
    Ensures (·.StandsAt (importPlace text 0))
      (upTo .endOfText (parseGoal depth (.statement false))) fun s _ ↦ s.sound = false := by
  have hyields : Yields 0 [] (parseGoal depth (.statement false)) ([·]) :=
    placesGoals_parseGoal depth trivial
  have := hyields.advances
  have : Advances (nextStatement depth) := by
    unfold nextStatement
    infer_instance
  have hline : Ensures (·.StandsAt (importPlace text 0)) (parseGoal depth (.statement false))
      fun s _ ↦ s.sound = false := by
    cases depth with
    | zero => exact ensures_fail
    | succ depth => exact ensures_statement (parseGoal depth) hbroken
  have hfirst : Ensures (·.StandsAt (importPlace text 0)) (nextStatement depth)
      fun s _ ↦ s.sound = false :=
    .known (fun _ _ ↦ sees_eq .endOfText (begins_import text))
      (.bind hline fun _ ↦ .pure fun _ _ h ↦ h)
  refine .read (fun _ _ ↦ rfl) fun context ↦ ?_
  cases context.limit with
  | zero => exact ensures_fail
  | succ limit =>
    refine .bind hfirst fun one ↦ ?_
    cases one with
    | none => exact .pure fun _ _ h ↦ h
    | some one => exact (Advances.repeatUpTo (nextStatement depth) limit [one]).unsound

/-- A text that begins with the line is no program if no token follows the line. -/
theorem parseProgram_importLine_append (dialect : Dialect)
    (hbroken : ∀ script, (Lexeme.next script ⟨45, '\n' :: text⟩).sound = false) :
    parseProgram dialect (importLine ++ text) = none := by
  have hprogram (depth : Nat) : Ensures (·.StandsAt (importPlace text 0))
      (program (parseGoal depth)) fun s _ ↦ s.sound = false := by
    refine .known (fun _ _ ↦ sees_eq .hashbang (begins_import text)) ?_
    refine .read (fun _ _ ↦ rfl) fun first ↦ .bind (ensures_statements depth hbroken) fun _ ↦ ?_
    exact .pure fun _ _ h ↦ h
  rw [importLine_eq]
  cases haccept : accept dialect (importLetters ++ text)
      (program (parseGoal (depthOf (importLetters ++ text)))) with
  | none => rw [parseProgram, haccept]; rfl
  | some statements =>
    obtain ⟨next, -, hsound, hunsound⟩ :=
      exists_state_of_accept haccept (hprogram _) ⟨_, rfl⟩
    rw [hunsound] at hsound
    cases hsound

end SsrBuild.Entry
