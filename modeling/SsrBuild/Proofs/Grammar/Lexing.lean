import Mathlib.Tactic.Common
import SsrBuild.Grammar.Lexeme

/-!
Reading goes forward. Every reader of a part of the text ends at or after the offset at which it
begins, so a token begins at or after the place it is looked for and does not end before it begins
(`Lexeme.IsFrom`), in the plain reading and in every other one.
-/

set_option autoImplicit false

namespace SsrBuild.Grammar.Lexeme

/-- The token begins at or after an offset and does not end before it begins. -/
def IsFrom (offset : Nat) (lexeme : Lexeme) : Prop :=
  offset ≤ lexeme.start ∧ lexeme.start ≤ lexeme.stop

theorem IsFrom.of_le {offset place : Nat} {lexeme : Lexeme} (h : lexeme.IsFrom place)
    (hle : offset ≤ place) : lexeme.IsFrom offset :=
  ⟨Nat.le_trans hle h.1, h.2⟩

/-! ### Parts of the text -/

theorem le_skipWhile (test : Char → Bool) (offset : Nat) (text : List Char) :
    offset ≤ (skipWhile test offset text).offset := by
  fun_induction skipWhile test offset text with
  | case1 => exact Nat.le_refl _
  | case2 offset c rest htest ih => omega
  | case3 => exact Nat.le_refl _

theorem le_skipTrivia (script : Bool) (gap : Gap) (ended : Bool) (offset : Nat)
    (text : List Char) : offset ≤ (skipTrivia script gap ended offset text).next.offset := by
  fun_induction skipTrivia script gap ended offset text <;> grind

theorem le_readWord {skip offset : Nat} {spelled : List Char} {escaped : Bool} {text : List Char}
    {word : Word} (h : readWord skip offset spelled escaped text = some word) :
    offset ≤ word.next.offset := by
  fun_induction readWord skip offset spelled escaped text <;> grind

theorem le_readString {quote : Char} {skip offset : Nat} {read : List Char} {isPaired : Bool}
    {text : List Char} {string : StringText}
    (h : readString quote skip offset read isPaired text = some string) :
    offset ≤ string.next.offset := by
  fun_induction readString quote skip offset read isPaired text <;> grind

theorem le_readTemplate {skip offset : Nat} {cooked : Bool} {text : List Char} {part : TemplatePart}
    (h : readTemplate skip offset cooked text = some part) : offset ≤ part.next.offset := by
  fun_induction readTemplate skip offset cooked text <;> grind

theorem le_readRegexBody {inClass escaped : Bool} {offset : Nat} {text : List Char} {next : Cursor}
    (h : readRegexBody inClass escaped offset text = some next) : offset ≤ next.offset := by
  fun_induction readRegexBody inClass escaped offset text <;> grind

/-! ### Numbers -/

theorem le_readDigits {isDigit : Char → Bool} {offset : Nat} {text : List Char} {next : Cursor}
    (h : readDigits isDigit offset text = some next) : offset ≤ next.offset := by
  fun_induction readDigits isDigit offset text <;> grind

theorem le_readSomeDigits {isDigit : Char → Bool} {offset : Nat} {text : List Char} {next : Cursor}
    (h : readSomeDigits isDigit offset text = some next) : offset ≤ next.offset := by
  unfold readSomeDigits at h
  split at h
  · cases h
  · split_ifs at h
    have := le_readDigits h
    omega

theorem le_endNumber {token : Token} {here : Cursor} {found : Token × Cursor}
    (h : endNumber token here = some found) : here.offset ≤ found.2.offset := by
  unfold endNumber at h
  grind

theorem le_readExponent {offset : Nat} {text : List Char} {next : Cursor}
    (h : readExponent offset text = some next) : offset ≤ next.offset := by
  unfold readExponent at h
  split at h
  · exact Nat.le_of_succ_le (le_readSomeDigits h)
  · exact Nat.le_of_succ_le (le_readSomeDigits h)
  · exact le_readSomeDigits h

/-- A number may end with its exponent, whatever comes next. -/
theorem le_readUnended {offset : Nat} {text : List Char} {found : Token × Cursor}
    (h : (do return (Token.number, ← readExponent offset text)) = some found) :
    offset ≤ found.2.offset := by
  obtain ⟨next, hnext, hfound⟩ := Option.bind_eq_some_iff.mp h
  obtain rfl := Option.some.inj hfound
  exact le_readExponent hnext

theorem le_readExponent? {here : Cursor} {found : Token × Cursor}
    (h : readExponent? here = some found) : here.offset ≤ found.2.offset := by
  have hexponent : ∀ {rest : List Char}, (do
      endNumber .number (← readExponent (here.offset + 1) rest)) = some found →
        here.offset ≤ found.2.offset := by
    intro rest h
    obtain ⟨next, hnext, hfound⟩ := Option.bind_eq_some_iff.mp h
    have := le_readExponent hnext
    have := le_endNumber hfound
    omega
  unfold readExponent? at h
  split at h
  · exact hexponent h
  · exact hexponent h
  · exact le_endNumber h

theorem le_readFraction {offset : Nat} {text : List Char} {found : Token × Cursor}
    (h : readFraction offset text = some found) : offset ≤ found.2.offset := by
  unfold readFraction at h
  split at h
  · split_ifs at h
    · obtain ⟨next, hnext, hfound⟩ := Option.bind_eq_some_iff.mp h
      have := le_readDigits hnext
      have := le_readExponent? hfound
      omega
    · exact le_readExponent? h
  · exact le_readExponent? h

theorem le_readBased {isDigit : Char → Bool} {offset : Nat} {text : List Char}
    {found : Token × Cursor} (h : readBased isDigit offset text = some found) :
    offset ≤ found.2.offset := by
  obtain ⟨digits, hdigits, h⟩ := Option.bind_eq_some_iff.mp h
  refine Nat.le_trans (le_readSomeDigits hdigits) ?_
  split at h
  · exact Nat.le_of_succ_le (le_endNumber h)
  · exact le_endNumber h

theorem le_readLeadingZero {offset : Nat} {text : List Char} {found : Token × Cursor}
    (h : readLeadingZero offset text = some found) : offset ≤ found.2.offset := by
  have hskip := le_skipWhile Char.isDigit offset text
  unfold readLeadingZero at h
  dsimp only at h
  split_ifs at h
  · exact Nat.le_trans hskip (le_endNumber h)
  · split at h
    · have := le_readFraction h
      omega
    · have := le_readUnended h
      omega
    · exact Nat.le_trans hskip (le_endNumber h)

theorem le_readDecimal {digits : Cursor} {found : Token × Cursor}
    (h : readDecimal digits = some found) : digits.offset ≤ found.2.offset := by
  unfold readDecimal at h
  split at h
  · exact Nat.le_of_succ_le (le_readFraction h)
  · exact Nat.le_of_succ_le (le_endNumber h)
  · exact le_readExponent? h

theorem le_readNumber {offset : Nat} {text : List Char} {found : Token × Cursor}
    (h : readNumber offset text = some found) : offset ≤ found.2.offset := by
  unfold readNumber at h
  split at h
  · split at h
    any_goals
      have := le_readBased h
      omega
    · exact Nat.le_of_succ_le (Nat.le_of_succ_le (le_readUnended h))
    · exact Nat.le_of_succ_le (Nat.le_of_succ_le (le_readUnended h))
    · split_ifs at h
      · have := le_readLeadingZero h
        omega
      · have := le_readDecimal h
        simp only at this
        omega
    · obtain rfl := Option.some.inj h
      simp
  · obtain ⟨next, hnext, hfound⟩ := Option.bind_eq_some_iff.mp h
    have := le_readSomeDigits hnext
    have := le_readDecimal hfound
    omega

/-! ### Tokens -/

theorem isFrom_broken (start : Nat) (afterLineEnd : Bool) (text : List Char) :
    (broken start afterLineEnd text).IsFrom start :=
  ⟨Nat.le_refl _, Nat.le_refl _⟩

theorem isFrom_plain {token : Token} {start : Nat} {afterLineEnd : Bool} {text : List Char}
    {next : Cursor} (h : start ≤ next.offset) :
    (plain token start afterLineEnd text next).IsFrom start :=
  ⟨Nat.le_refl _, h⟩

theorem isFrom_ofTemplatePart {opening closing : Token} {start : Nat} {afterLineEnd : Bool}
    {text : List Char} {part : TemplatePart} (h : start ≤ part.next.offset) :
    (ofTemplatePart opening closing start afterLineEnd text part).IsFrom start :=
  ⟨Nat.le_refl _, h⟩

theorem isFrom_ofWord {start : Nat} {afterLineEnd : Bool} {text : List Char} {word : Word}
    (h : start ≤ word.next.offset) : (ofWord start afterLineEnd text word).IsFrom start :=
  ⟨Nat.le_refl _, h⟩

/-- The plain reading. -/
theorem isFrom_read (start : Nat) (afterLineEnd : Bool) (text : List Char) :
    (read start afterLineEnd text).IsFrom start := by
  unfold read
  dsimp only
  split
  · exact isFrom_plain (Nat.le_refl _)
  · next c rest =>
    split_ifs
    · split
      · next string hstring => exact ⟨Nat.le_refl _, Nat.le_of_succ_le (le_readString hstring)⟩
      · exact isFrom_broken ..
    · split
      · next part hpart => exact isFrom_ofTemplatePart (Nat.le_of_succ_le (le_readTemplate hpart))
      · exact isFrom_broken ..
    · split
      · next token next hnumber => exact isFrom_plain (le_readNumber hnumber)
      · exact isFrom_broken ..
    · split
      · next token next hfraction =>
        exact isFrom_plain (Nat.le_of_succ_le (le_readFraction hfraction))
      · exact isFrom_broken ..
    · exact isFrom_plain (le_skipWhile _ _ _)
    · split
      · next word hword =>
        split_ifs
        · exact isFrom_broken ..
        · exact ⟨Nat.le_refl _, Nat.le_of_succ_le (le_readWord hword)⟩
      · exact isFrom_broken ..
    · split
      · exact isFrom_plain (Nat.le_add_right _ _)
      · split
        · next word hword =>
          split_ifs
          · exact isFrom_broken ..
          · exact isFrom_ofWord (le_readWord hword)
        · exact isFrom_broken ..

/-- The token after a position begins there or later. -/
theorem isFrom_next (script : Bool) (here : Cursor) : (next script here).IsFrom here.offset := by
  have htrivia := le_skipTrivia script .blank (here.offset == 0) here.offset here.text
  unfold next
  dsimp only
  split_ifs
  · exact (isFrom_read _ _ _).of_le htrivia
  · exact (isFrom_broken _ _ _).of_le htrivia

/-! ### Other readings -/

/-- A token that is read in another way begins where it began and does not end before that. -/
def KeepsStart (change : Lexeme → Lexeme) : Prop :=
  ∀ lexeme : Lexeme, lexeme.start ≤ lexeme.stop →
    (change lexeme).start = lexeme.start ∧ lexeme.start ≤ (change lexeme).stop

theorem keepsStart_asRegex : KeepsStart asRegex := by
  intro slash _
  unfold asRegex
  split
  · exact ⟨rfl, Nat.le_refl _⟩
  · next body hbody =>
    have := le_readRegexBody hbody
    refine ⟨rfl, Nat.le_trans ?_ (le_skipWhile _ _ _)⟩
    omega

theorem keepsStart_asTemplate : KeepsStart asTemplate := by
  intro brace _
  unfold asTemplate
  split
  · exact ⟨rfl, Nat.le_refl _⟩
  · next part hpart => exact ⟨rfl, Nat.le_of_succ_le (le_readTemplate hpart)⟩

theorem keepsStart_asAngleOperator : KeepsStart asAngleOperator := by
  intro angle h
  unfold asAngleOperator
  split_ifs
  · exact ⟨rfl, Nat.le_add_right _ _⟩
  · exact ⟨rfl, h⟩

theorem keepsStart_asOpenAngle : KeepsStart asOpenAngle := by
  intro angle h
  unfold asOpenAngle
  split_ifs
  · exact ⟨rfl, Nat.le_add_right _ _⟩
  · exact ⟨rfl, h⟩

theorem keepsStart_asElementName : KeepsStart asElementName := by
  intro word h
  exact ⟨rfl, Nat.le_trans h (le_skipWhile _ _ _)⟩

theorem isFrom_readAttributeString (start : Nat) (afterLineEnd : Bool) (quote : Char)
    (text : List Char) : (readAttributeString start afterLineEnd quote text).IsFrom start := by
  have hbody := le_skipWhile (· != quote) (start + 1) (text.drop 1)
  unfold readAttributeString
  dsimp only
  split
  · exact isFrom_plain (by simp only; omega)
  · exact isFrom_broken ..

/-- The value of an attribute begins at the position or later. -/
theorem isFrom_nextAttributeValue (here : Cursor) :
    (nextAttributeValue here).IsFrom here.offset := by
  have htrivia := le_skipTrivia false .blank false here.offset here.text
  unfold nextAttributeValue
  dsimp only
  split
  · exact (isFrom_readAttributeString _ _ _ _).of_le htrivia
  · exact (isFrom_readAttributeString _ _ _ _).of_le htrivia
  · exact isFrom_next false here

/-- What stands between tags begins at the position. -/
theorem isFrom_nextElementChild (here : Cursor) :
    (nextElementChild here).IsFrom here.offset := by
  unfold nextElementChild
  split
  · exact ⟨Nat.le_refl _, Nat.le_refl _⟩
  · exact ⟨Nat.le_refl _, Nat.le_succ _⟩
  · exact ⟨Nat.le_refl _, Nat.le_succ _⟩
  · dsimp only
    split
    · exact isFrom_broken ..
    · exact isFrom_broken ..
    · exact isFrom_plain (le_skipWhile _ _ _)

end SsrBuild.Grammar.Lexeme
