import Mathlib.Tactic.Common
import SsrBuild.Decimal.Notation
import SsrBuild.Grammar.Lexeme

/-!
Reading a text that was put together from tokens. Blanks, words, marks, plain strings and numbers
are the pieces of which a text is made (`Piece`), and a piece may only stand before what does not
prolong it (`Piece.fits`). Pieces that fit are read one by one, whatever stands behind the last of
them (`Scans.pieces`), and so the whole text is read as its tokens (`Scans.readsAs`).
-/

set_option autoImplicit false

namespace SsrBuild.Grammar

namespace Lexeme

/-- The token is this one and has this value, nothing about it is at fault, and this is left. -/
structure Is (lexeme : Lexeme) (token : Token) (value rest : List Char) : Prop where
  token_eq : lexeme.token = token
  value_eq : lexeme.value = value
  sound : lexeme.sound = true
  isPaired : lexeme.isPaired = true
  rest_eq : lexeme.rest = rest

/-- From the position on, the text is read as these tokens, each with its value, up to its end. -/
def ReadsAs : Cursor → List (Token × List Char) → Prop
  | here, [] => (next false here).Is .endOfText [] []
  | here, (token, value) :: tokens =>
    (next false here).Is token value (next false here).rest ∧ ReadsAs (next false here).after tokens

/-! ### Characters -/

/-- A blank or the end of a line. -/
def isBlank (c : Char) : Bool := isSpace c || isLineEnd c

/-- A letter with which a word of the program may begin. -/
def isLetter (c : Char) : Bool := c.isAlpha || c == '_'

/-- Between quotes, the character stands for itself. -/
def isPlain (c : Char) : Bool := !(['\x27', '\\', '\n', '\r'].contains c)

/-- A character that passes a test is not one that fails it. -/
theorem ne_of_test {test : Char → Bool} {c d : Char} (hc : test c = true) (hd : test d = false) :
    c ≠ d := by
  rintro rfl
  exact absurd hc (Bool.eq_false_iff.mp hd)

theorem toNat_of_isLetter {c : Char} (h : isLetter c = true) : 65 ≤ c.toNat ∧ c.toNat ≤ 122 := by
  obtain halpha | hline := Bool.or_eq_true_iff.mp h
  · delta Char.isAlpha Char.isUpper Char.isLower at halpha
    have hcases : 65 ≤ c.toNat ∧ c.toNat ≤ 90 ∨ 97 ≤ c.toNat ∧ c.toNat ≤ 122 := by
      simpa [UInt32.le_iff_toNat_le] using halpha
    omega
  · rw [beq_iff_eq.mp hline]
    decide

theorem toNat_of_isDigit {c : Char} (h : c.isDigit = true) : 48 ≤ c.toNat ∧ c.toNat ≤ 57 := by
  simp only [Char.isDigit, ge_iff_le, Bool.and_eq_true, decide_eq_true_eq,
    UInt32.le_iff_toNat_le] at h
  exact h

theorem isDigit_eq_false_of_isLetter {c : Char} (h : isLetter c = true) : c.isDigit = false := by
  rw [Bool.eq_false_iff]
  intro hdigit
  have hletter := toNat_of_isLetter h
  have := toNat_of_isDigit hdigit
  omega

/-- A character that is printed in ASCII is no blank. -/
theorem isBlank_eq_false {c : Char} (hlow : 33 ≤ c.toNat) (hhigh : c.toNat ≤ 126) :
    isBlank c = false := by
  have hends : ∀ {d : Char}, d.toNat < 33 → c ≠ d := fun hd heq ↦ by
    rw [heq] at hlow
    exact absurd hlow (Nat.not_le.mpr hd)
  have hnewline : c ≠ '\n' := hends (by decide)
  have hreturn : c ≠ '\r' := hends (by decide)
  rw [Bool.eq_false_iff]
  intro hblank
  simp only [isBlank, isSpace, isLineEnd, Bool.or_eq_true, Bool.and_eq_true, beq_iff_eq,
    decide_eq_true_eq, hnewline, hreturn, false_or] at hblank
  omega

/-! ### Words -/

variable {rest : List Char}

/-- The letters behind the first one of a word are read up to what prolongs it no more. -/
theorem readWord_append {letters : List Char} (hletters : letters.all Text.isIdentifierPart = true)
    (hrest : ∀ c ∈ rest.head?, Text.isIdentifierPart c = false ∧ c ≠ '\\') {spelled : List Char}
    (hspelled : spelled ≠ []) (offset : Nat) :
    readWord 0 offset spelled false (letters ++ rest) =
      some ⟨spelled.reverse ++ letters, false, offset + letters.length, rest⟩ := by
  have hextends : ∀ {spelled : List Char}, spelled ≠ [] → ∀ c,
      extendsWord spelled c = Text.isIdentifierPart c := by
    intro spelled hspelled c
    rw [extendsWord, if_neg (by simpa using hspelled)]
  induction letters generalizing spelled offset with
  | nil =>
    cases rest with
    | nil => simp [readWord]
    | cons c rest =>
      obtain ⟨hpart, hbackslash⟩ := hrest c rfl
      simp [readWord, hextends hspelled, hpart, hbackslash]
  | cons c letters ih =>
    obtain ⟨hpart, hletters⟩ := Bool.and_eq_true_iff.mp hletters
    have hbackslash : c ≠ '\\' := ne_of_test hpart (by decide)
    have hstep : readWord 0 offset spelled false (c :: (letters ++ rest)) =
        readWord 0 (offset + 1) (c :: spelled) false (letters ++ rest) := by
      rw [readWord.eq_def]
      simp [hextends hspelled, hpart, hbackslash]
    rw [List.cons_append, hstep, ih hletters (List.cons_ne_nil _ _), List.length_cons,
      List.reverse_cons, List.append_assoc, List.singleton_append, Nat.add_assoc, Nat.add_comm 1]

/-- No mark begins with a letter. -/
theorem punctuator?_letter {c : Char} (hletter : isLetter c = true) (rest : List Char) :
    punctuator? (c :: rest) = none := by
  unfold punctuator?
  split <;> first | rfl | (rename_i heq; cases heq; cases hletter)

/-- A word is read up to what prolongs it no more. -/
theorem read_word {letters : List Char} (hname : Text.isIdentifierName letters = true)
    (hfirst : letters.head?.any isLetter = true)
    (hrest : ∀ c ∈ rest.head?, Text.isIdentifierPart c = false ∧ c ≠ '\\') (start : Nat)
    (afterLineEnd : Bool) :
    (read start afterLineEnd (letters ++ rest)).Is (.ofWord letters) letters rest := by
  cases letters with
  | nil => cases hname
  | cons c letters =>
    obtain ⟨hstart, hletters⟩ := Bool.and_eq_true_iff.mp hname
    have hletter : isLetter c = true := hfirst
    have hother : ∀ {d : Char}, isLetter d = false → (c == d) = false := fun hd ↦
      beq_eq_false_iff_ne.mpr (ne_of_test hletter hd)
    have hbackslash : (c == '\\') = false := hother (by decide)
    have hstep : readWord 0 start [] false (c :: (letters ++ rest)) =
        readWord 0 (start + 1) [c] false (letters ++ rest) := by
      rw [readWord.eq_def]
      simp [show extendsWord [] c = true from hstart, hbackslash]
    have hread : read start afterLineEnd (c :: (letters ++ rest)) =
        ofWord start afterLineEnd (c :: (letters ++ rest))
          ⟨c :: letters, false, start + 1 + letters.length, rest⟩ := by
      rw [read]
      dsimp only
      rw [hother (d := '\x22') (by decide), hother (d := '\x27') (by decide),
        hother (d := '\x60') (by decide), hother (d := '.') (by decide),
        hother (d := '#') (by decide), isDigit_eq_false_of_isLetter hletter,
        punctuator?_letter hletter, hstep,
        readWord_append hletters hrest (List.cons_ne_nil _ _)]
      rfl
    rw [List.cons_append, hread]
    exact ⟨rfl, rfl, rfl, rfl, rfl⟩

/-! ### Marks -/

/-- Marks that nothing prolongs. -/
def singleMarks : List Char := ['{', '}', '(', ')', '[', ']', ';', ',', ':']

/-- Marks that a blank ends. -/
def operatorMarks : List (List Char) :=
  [['='], ['=', '>'], ['=', '=', '='], ['|', '|'], ['&', '&'], ['?']]

/-- The token of a mark that stands alone. -/
def markToken? (mark : List Char) : Option (Token × List Char) :=
  (punctuator? mark).map fun found ↦ (found.1, [])

theorem read_singleMark {c : Char} (h : singleMarks.contains c = true) (rest : List Char) :
    ∃ token, markToken? [c] = some (token, []) ∧
      ∀ start afterLineEnd, (read start afterLineEnd (c :: rest)).Is token [] rest := by
  simp only [singleMarks, List.contains_iff_mem, List.mem_cons, List.not_mem_nil, or_false] at h
  rcases h with rfl | rfl | rfl | rfl | rfl | rfl | rfl | rfl | rfl <;>
    exact ⟨_, rfl, fun _ _ ↦ ⟨rfl, rfl, rfl, rfl, rfl⟩⟩

theorem read_operatorMark {mark : List Char} (h : operatorMarks.contains mark = true)
    (rest : List Char) :
    ∃ token, markToken? mark = some (token, []) ∧
      ∀ start afterLineEnd,
        (read start afterLineEnd (mark ++ ' ' :: rest)).Is token [] (' ' :: rest) := by
  simp only [operatorMarks, List.contains_iff_mem, List.mem_cons, List.not_mem_nil, or_false] at h
  rcases h with rfl | rfl | rfl | rfl | rfl | rfl <;>
    exact ⟨_, rfl, fun _ _ ↦ ⟨rfl, rfl, rfl, rfl, rfl⟩⟩

/-- A point before a letter is a mark of its own. -/
theorem punctuator?_dot {c : Char} (hletter : isLetter c = true) (rest : List Char) :
    punctuator? ('.' :: c :: rest) = some (.dot, 1) := by
  unfold punctuator?
  split <;> first
    | rfl
    | (rename_i heq; cases heq <;> cases hletter)
    | exact (by assumption : ∀ tail, '.' :: c :: rest = '.' :: tail → False) _ rfl |>.elim

theorem read_dot {c : Char} (hletter : isLetter c = true) (rest : List Char) (start : Nat)
    (afterLineEnd : Bool) :
    (read start afterLineEnd ('.' :: c :: rest)).Is .dot [] (c :: rest) := by
  have hread : read start afterLineEnd ('.' :: c :: rest) =
      plain .dot start afterLineEnd ('.' :: c :: rest) ⟨start + 1, c :: rest⟩ := by
    rw [read]
    dsimp only
    rw [punctuator?_dot hletter, List.head?_cons, Option.any_some,
      isDigit_eq_false_of_isLetter hletter]
    rfl
  rw [hread]
  exact ⟨rfl, rfl, rfl, rfl, rfl⟩

/-! ### Strings -/

/-- The two marks that may stand around a string. -/
def IsQuote (c : Char) : Prop := c = '"' ∨ c = '\x27'

theorem readString_cons {quote c : Char} (hquote : c ≠ quote) (hbackslash : c ≠ '\\')
    (hnewline : c ≠ '\n') (hreturn : c ≠ '\r') (offset : Nat) (read rest : List Char) :
    readString quote 0 offset read true (c :: rest) =
      readString quote 0 (offset + 1) (c :: read) true rest := by
  rw [readString.eq_def]
  simp [hquote, hbackslash, hnewline, hreturn]

/-- Characters that stand for themselves are read up to the quote behind them. -/
theorem readString_append {quote : Char} {letters : List Char} (hbackslash : '\\' ∉ letters)
    (hplain : ∀ c ∈ letters, c ≠ quote ∧ c ≠ '\n' ∧ c ≠ '\r') (offset : Nat)
    (read rest : List Char) :
    readString quote 0 offset read true (letters ++ quote :: rest) =
      some ⟨read.reverse ++ letters, true, offset + letters.length + 1, rest⟩ := by
  induction letters generalizing offset read with
  | nil => simp [readString]
  | cons c letters ih =>
    obtain ⟨hfirst, hbackslash⟩ : '\\' ≠ c ∧ '\\' ∉ letters := by simpa using hbackslash
    obtain ⟨⟨hquote, hnewline, hreturn⟩, hplain⟩ := List.forall_mem_cons.mp hplain
    rw [List.cons_append, readString_cons hquote hfirst.symm hnewline hreturn, ih hbackslash hplain,
      List.length_cons, List.reverse_cons, List.append_assoc, List.singleton_append,
      Nat.add_assoc offset, Nat.add_comm 1]

/-- Only such characters are read as they stand. -/
theorem of_readString_append {quote : Char} {letters : List Char} (hbackslash : '\\' ∉ letters)
    {offset : Nat} {read rest : List Char} {string : StringText}
    (h : readString quote 0 offset read true (letters ++ quote :: rest) = some string)
    (hvalue : string.value = read.reverse ++ letters) :
    ∀ c ∈ letters, c ≠ quote ∧ c ≠ '\n' ∧ c ≠ '\r' := by
  induction letters generalizing offset read with
  | nil => exact fun c hc ↦ nomatch hc
  | cons c letters ih =>
    obtain ⟨hfirst, hbackslash⟩ : '\\' ≠ c ∧ '\\' ∉ letters := by simpa using hbackslash
    rw [List.cons_append] at h
    by_cases hquote : c = quote
    · -- The string has ended before this character, so it is too short.
      rw [hquote, readString.eq_def] at h
      simp only [Nat.lt_irrefl, if_false, beq_self_eq_true, if_true, Option.some.injEq] at h
      rw [← h] at hvalue
      simp at hvalue
    · by_cases hend : c = '\n' ∨ c = '\r'
      · rw [readString.eq_def] at h
        simp [hquote, hfirst.symm, hend] at h
      · obtain ⟨hnewline, hreturn⟩ := not_or.mp hend
        rw [readString_cons hquote hfirst.symm hnewline hreturn] at h
        refine List.forall_mem_cons.mpr ⟨⟨hquote, hnewline, hreturn⟩, ih hbackslash h ?_⟩
        rw [hvalue, List.reverse_cons, List.append_assoc, List.singleton_append]

/-- Characters between quotes are a string that holds just them if none is a quote or ends a line,
and there are no backslashes. -/
theorem read_quoted_iff {quote : Char} (hquote : IsQuote quote) {letters : List Char}
    (hbackslash : '\\' ∉ letters) (rest : List Char) (start : Nat) (afterLineEnd : Bool) :
    (read start afterLineEnd (quote :: (letters ++ quote :: rest))).Is .string letters rest ↔
      ∀ c ∈ letters, c ≠ quote ∧ c ≠ '\n' ∧ c ≠ '\r' := by
  have hmark : (quote == '\x22' || quote == '\x27') = true := by
    rcases hquote with rfl | rfl
    · rfl
    · rfl
  rw [read]
  dsimp only
  rw [if_pos hmark]
  constructor
  · intro h
    split at h
    · next string hstring => exact of_readString_append hbackslash hstring h.value_eq
    · cases h.sound
  · intro hplain
    rw [readString_append hbackslash hplain]
    exact ⟨rfl, rfl, rfl, rfl, rfl⟩

/-- Plain characters between quotes are their string. -/
theorem read_quoted {letters : List Char} (hplain : letters.all isPlain = true)
    (rest : List Char) (start : Nat) (afterLineEnd : Bool) :
    (read start afterLineEnd ('\x27' :: (letters ++ '\x27' :: rest))).Is .string letters rest := by
  have hletters : ∀ c ∈ letters, c ≠ '\x27' ∧ c ≠ '\\' ∧ c ≠ '\n' ∧ c ≠ '\r' := by
    simpa [isPlain] using hplain
  refine (read_quoted_iff (.inr rfl) (fun hmem ↦ (hletters _ hmem).2.1 rfl) rest start
    afterLineEnd).mpr fun c hc ↦ ?_
  obtain ⟨hquote, -, hends⟩ := hletters c hc
  exact ⟨hquote, hends⟩

/-! ### Numbers -/

theorem readDigits_append {digits : List Char} (hdigits : digits.all Char.isDigit = true)
    (offset : Nat) (rest : List Char) :
    readDigits Char.isDigit offset (digits ++ ']' :: rest) =
      some ⟨offset + digits.length, ']' :: rest⟩ := by
  induction digits generalizing offset with
  | nil => simp [readDigits]
  | cons c digits ih =>
    obtain ⟨hc, hdigits⟩ := Bool.and_eq_true_iff.mp hdigits
    have hline : c ≠ '_' := ne_of_test hc rfl
    have hstep : readDigits Char.isDigit offset (c :: (digits ++ ']' :: rest)) =
        readDigits Char.isDigit (offset + 1) (digits ++ ']' :: rest) := by
      rw [readDigits]
      · rw [if_pos hc]
      · exact fun _ _ heq _ ↦ hline heq
    rw [List.cons_append, hstep, ih hdigits, List.length_cons, Nat.add_assoc, Nat.add_comm 1]

/-- A decimal numeral is the digit zero, or it does not begin with zero. -/
theorem head_decimalDigits (n : Nat) :
    decimalDigits n = ['0'] ∨ ∀ c ∈ (decimalDigits n).head?, c ≠ '0' := by
  induction n using Nat.strongRecOn with
  | ind n ih =>
    obtain hlt | hle := Nat.lt_or_ge n 10
    · have hdigit : decimalDigits n = [n.digitChar] := Nat.toDigits_of_lt_base hlt
      rw [hdigit]
      obtain rfl | hpos := Nat.eq_zero_or_pos n
      · exact .inl rfl
      · refine .inr fun c hc ↦ ?_
        cases hc
        exact fun hzero ↦ absurd (Nat.digitChar_eq_zero.mp hzero) (Nat.ne_of_gt hpos)
    · have hdigits : decimalDigits n = decimalDigits (n / 10) ++ [(n % 10).digitChar] :=
        Nat.toDigits_of_base_le (by decide) hle
      have hne : decimalDigits (n / 10) ≠ [] := Nat.toDigits_ne_nil
      obtain hzero | hhead := ih (n / 10) (by omega)
      · have hvalue : Nat.ofDigitChars 10 (decimalDigits (n / 10)) 0 = n / 10 :=
          Nat.ofDigitChars_ten_toDigits
        rw [hzero] at hvalue
        have : n / 10 = 0 := hvalue.symm
        omega
      · obtain ⟨first, others, heq⟩ := List.exists_cons_of_ne_nil hne
        rw [heq] at hhead hdigits
        rw [hdigits]
        exact .inr hhead

/-- A decimal numeral has a first digit, and all others are digits too. -/
theorem exists_digits (n : Nat) :
    ∃ c digits, decimalDigits n = c :: digits ∧ c.isDigit = true ∧
      digits.all Char.isDigit = true := by
  have hne : decimalDigits n ≠ [] := Nat.toDigits_ne_nil
  have hall : (decimalDigits n).all Char.isDigit = true := List.all_eq_true.mpr fun c hc ↦
    Nat.isDigit_of_mem_toDigits (b := 10) (by decide) (by decide) hc
  obtain ⟨c, digits, hdigits⟩ := List.exists_cons_of_ne_nil hne
  rw [hdigits] at hall
  exact ⟨c, digits, hdigits, Bool.and_eq_true_iff.mp hall⟩

theorem readNumber_append (n offset : Nat) (rest : List Char) :
    readNumber offset (decimalDigits n ++ ']' :: rest) =
      some (.number, ⟨offset + (decimalDigits n).length, ']' :: rest⟩) := by
  -- A zero before other digits would be read in another base.
  obtain hzero | hhead := head_decimalDigits n
  · rw [hzero]
    rfl
  · obtain ⟨c, digits, hdigits, hc, hothers⟩ := exists_digits n
    rw [hdigits] at hhead ⊢
    have hsome : readSomeDigits Char.isDigit offset (c :: (digits ++ ']' :: rest)) =
        some ⟨offset + 1 + digits.length, ']' :: rest⟩ := by
      rw [readSomeDigits, if_pos hc, readDigits_append hothers]
    have hfirst : c ≠ '0' := hhead c rfl
    have hnumber : readNumber offset (c :: (digits ++ ']' :: rest)) =
        readSomeDigits Char.isDigit offset (c :: (digits ++ ']' :: rest)) >>= readDecimal := by
      rw [readNumber.eq_def]
      split
      · next heq => exact absurd (List.cons.inj heq).1 hfirst
      · rfl
    rw [List.cons_append, hnumber, hsome, List.length_cons, Nat.add_comm digits.length,
      ← Nat.add_assoc]
    rfl

/-- A decimal numeral in brackets is a number. -/
theorem read_number (n : Nat) (rest : List Char) (start : Nat) (afterLineEnd : Bool) :
    (read start afterLineEnd (decimalDigits n ++ ']' :: rest)).Is .number [] (']' :: rest) := by
  have hnumber := readNumber_append n start rest
  obtain ⟨c, digits, hdigits, hdigit, -⟩ := exists_digits n
  have hother : ∀ {d : Char}, d.isDigit = false → (c == d) = false := fun hd ↦
    beq_eq_false_iff_ne.mpr (ne_of_test hdigit hd)
  have hread : read start afterLineEnd (decimalDigits n ++ ']' :: rest) =
      plain .number start afterLineEnd (decimalDigits n ++ ']' :: rest)
        ⟨start + (decimalDigits n).length, ']' :: rest⟩ := by
    rw [hdigits] at hnumber ⊢
    rw [List.cons_append, read]
    dsimp only
    rw [hother (d := '\x22') rfl, hother (d := '\x27') rfl, hother (d := '\x60') rfl, hdigit,
      ← List.cons_append, hnumber]
    rfl
  rw [hread]
  exact ⟨rfl, rfl, rfl, rfl, rfl⟩

/-! ### One token after another -/

/-- Wherever the text stands, its first token is this one. It does not matter whether a line has
ended before it, so a blank in front of the text changes nothing. -/
def Begins (text : List Char) (token : Token) (value rest : List Char) : Prop :=
  ∀ ended offset,
    let trivia := skipTrivia false .blank ended offset text
    trivia.closed = true ∧
      (read trivia.next.offset trivia.lineEnded trivia.next.text).Is token value rest

/-- Wherever the text stands, it is read as these tokens. -/
inductive Scans : List Char → List (Token × List Char) → Prop
  | nil {text : List Char} (h : Begins text .endOfText [] []) : Scans text []
  | cons {text value rest : List Char} {token : Token} {tokens : List (Token × List Char)}
    (h : Begins text token value rest) (hrest : Scans rest tokens) :
    Scans text ((token, value) :: tokens)

variable {text value : List Char} {token : Token} {tokens : List (Token × List Char)} {c : Char}

theorem Begins.next (h : Begins text token value rest) (offset : Nat) :
    (next false ⟨offset, text⟩).Is token value rest := by
  obtain ⟨hclosed, htoken⟩ := h (offset == 0) offset
  unfold Lexeme.next
  rw [if_pos hclosed]
  exact htoken

theorem Scans.readsAs (h : Scans text tokens) (offset : Nat) : ReadsAs ⟨offset, text⟩ tokens := by
  induction h generalizing offset with
  | nil h => exact h.next offset
  | @cons text value rest token tokens h hrest ih =>
    have hfirst := h.next offset
    have hafter : (Lexeme.next false ⟨offset, text⟩).after =
        ⟨(Lexeme.next false ⟨offset, text⟩).stop, rest⟩ := by
      rw [after, hfirst.rest_eq]
    exact ⟨hfirst.rest_eq.symm ▸ hfirst, hafter ▸ ih _⟩

/-- There is nothing in an empty text. -/
theorem Scans.empty : Scans [] [] := .nil fun _ _ ↦ ⟨rfl, rfl, rfl, rfl, rfl, rfl⟩

/-- What is no comment is skipped as long as there are blanks. -/
theorem skipTrivia_cons (hslash : c ≠ '/') (ended : Bool) (offset : Nat) (rest : List Char) :
    skipTrivia false .blank ended offset (c :: rest) =
      if isSpace c then skipTrivia false .blank ended (offset + 1) rest
      else if isLineEnd c then skipTrivia false .blank true (offset + 1) rest
      else ⟨ended, true, offset, c :: rest⟩ := by
  rw [skipTrivia.eq_def]
  split
  · next heq => exact absurd (List.cons.inj heq).1 hslash
  · next heq => exact absurd (List.cons.inj heq).1 hslash
  · next heq =>
    obtain ⟨rfl, rfl⟩ := List.cons.inj heq
    rfl
  all_goals contradiction

theorem Begins.blank (h : Begins text token value rest) (hblank : isBlank c = true) :
    Begins (c :: text) token value rest := by
  have hslash : c ≠ '/' := ne_of_test hblank (by decide)
  intro ended offset
  rw [skipTrivia_cons hslash]
  obtain hspace | hends := Bool.or_eq_true_iff.mp hblank
  · rw [if_pos hspace]
    exact h _ _
  · rw [if_pos hends]
    split_ifs
    · exact h _ _
    · exact h _ _

/-- A blank makes no difference to the tokens behind it. -/
theorem Scans.blank (h : Scans text tokens) (hblank : isBlank c = true) :
    Scans (c :: text) tokens := by
  cases h with
  | nil h => exact .nil (h.blank hblank)
  | cons h hrest => exact .cons (h.blank hblank) hrest

/-- A token is read where it begins. -/
theorem Scans.first (h : Scans rest tokens) (hlow : 33 ≤ c.toNat) (hhigh : c.toNat ≤ 126)
    (hslash : c ≠ '/')
    (hread : ∀ start afterLineEnd, (read start afterLineEnd (c :: text)).Is token value rest) :
    Scans (c :: text) ((token, value) :: tokens) := by
  refine .cons (fun ended offset ↦ ?_) h
  obtain ⟨hspace, hends⟩ := Bool.or_eq_false_iff.mp (isBlank_eq_false hlow hhigh)
  rw [skipTrivia_cons hslash, hspace, hends]
  exact ⟨rfl, hread _ _⟩

theorem Scans.word {letters : List Char} (h : Scans rest tokens)
    (hname : Text.isIdentifierName letters = true) (hfirst : letters.head?.any isLetter = true)
    (hrest : ∀ c ∈ rest.head?, Text.isIdentifierPart c = false ∧ c ≠ '\\') :
    Scans (letters ++ rest) ((.ofWord letters, letters) :: tokens) := by
  obtain ⟨c, others, rfl⟩ : ∃ c others, letters = c :: others := by
    cases letters with
    | nil => cases hname
    | cons c others => exact ⟨c, others, rfl⟩
  have hletter : isLetter c = true := hfirst
  have hbounds := toNat_of_isLetter hletter
  exact h.first (by omega) (by omega) (ne_of_test hletter rfl) (read_word hname hfirst hrest)

theorem Scans.singleMark (h : Scans rest tokens) (hmark : singleMarks.contains c = true) :
    ∃ token, markToken? [c] = some (token, []) ∧ Scans (c :: rest) ((token, []) :: tokens) := by
  have hbounds : ∀ c ∈ singleMarks, 33 ≤ c.toNat ∧ c.toNat ≤ 126 ∧ c ≠ '/' := by
    simp [singleMarks]
  obtain ⟨token, htoken, hread⟩ := read_singleMark hmark rest
  obtain ⟨hlow, hhigh, hslash⟩ := hbounds c (List.contains_iff_mem.mp hmark)
  exact ⟨token, htoken, h.first hlow hhigh hslash hread⟩

theorem Scans.operatorMark {mark : List Char} (h : Scans (' ' :: rest) tokens)
    (hmark : operatorMarks.contains mark = true) :
    ∃ token, markToken? mark = some (token, []) ∧
      Scans (mark ++ ' ' :: rest) ((token, []) :: tokens) := by
  have hbounds : ∀ mark ∈ operatorMarks, ∃ c others, mark = c :: others ∧
      33 ≤ c.toNat ∧ c.toNat ≤ 126 ∧ c ≠ '/' := by simp [operatorMarks]
  obtain ⟨token, htoken, hread⟩ := read_operatorMark hmark rest
  obtain ⟨c, others, rfl, hlow, hhigh, hslash⟩ := hbounds mark (List.contains_iff_mem.mp hmark)
  exact ⟨token, htoken, h.first hlow hhigh hslash hread⟩

theorem Scans.dot (h : Scans (c :: rest) tokens) (hletter : isLetter c = true) :
    Scans ('.' :: c :: rest) ((.dot, []) :: tokens) :=
  h.first (by decide) (by decide) (by decide) (read_dot hletter rest)

theorem Scans.quoted {letters : List Char} (h : Scans rest tokens)
    (hplain : letters.all isPlain = true) :
    Scans ('\x27' :: (letters ++ '\x27' :: rest)) ((.string, letters) :: tokens) :=
  h.first (by decide) (by decide) (by decide) (read_quoted hplain rest)

theorem Scans.number (h : Scans (']' :: rest) tokens) (n : Nat) :
    Scans (decimalDigits n ++ ']' :: rest) ((.number, []) :: tokens) := by
  have hread := read_number n rest
  obtain ⟨c, digits, hdigits, hdigit, -⟩ := exists_digits n
  have hbounds := toNat_of_isDigit hdigit
  rw [hdigits] at hread ⊢
  exact h.first (by omega) (by omega) (ne_of_test hdigit rfl) hread

/-! ### Pieces -/

/-- A piece of a program. -/
inductive Piece
  | blank (c : Char)
  | word (letters : List Char)
  | single (c : Char)
  | operator (mark : List Char)
  | dot
  | quoted (letters : List Char)
  | number (n : Nat)

namespace Piece

/-- How the piece is written. -/
def written : Piece → List Char
  | .blank c => [c]
  | .word letters => letters
  | .single c => [c]
  | .operator mark => mark
  | .dot => ['.']
  | .quoted letters => '\x27' :: (letters ++ ['\x27'])
  | .number n => decimalDigits n

/-- The token that the piece is. -/
def token? : Piece → Option (Token × List Char)
  | .blank _ => none
  | .word letters => some (.ofWord letters, letters)
  | .single c => markToken? [c]
  | .operator mark => markToken? mark
  | .dot => some (.dot, [])
  | .quoted letters => some (.string, letters)
  | .number _ => some (.number, [])

/-- May the piece stand before this text? -/
def fits : Piece → List Char → Bool
  | .blank c, _ => isBlank c
  | .word letters, following =>
    Text.isIdentifierName letters && letters.head?.any isLetter &&
      following.head?.any fun c ↦ !Text.isIdentifierPart c && c != '\\'
  | .single c, _ => singleMarks.contains c
  | .operator mark, following => operatorMarks.contains mark && following.head? == some ' '
  | .dot, following => following.head?.any isLetter
  | .quoted letters, _ => letters.all isPlain
  | .number _, following => following.head? == some ']'

end Piece

/-- Several pieces as they are written. -/
def writtenText (pieces : List Piece) : List Char := pieces.flatMap Piece.written

/-- Does every piece fit what stands behind it? -/
def allFit : List Piece → Bool
  | [] => true
  | piece :: pieces => piece.fits (writtenText pieces) && allFit pieces

/-- A piece that fits is read as its token. -/
theorem Scans.piece {piece : Piece} {following : List Char}
    (hfits : piece.fits following = true) (h : Scans (following ++ rest) tokens) :
    Scans (piece.written ++ (following ++ rest)) (piece.token?.toList ++ tokens) := by
  cases piece with
  | blank c => exact h.blank hfits
  | word letters =>
    obtain ⟨hword, hends⟩ := Bool.and_eq_true_iff.mp hfits
    obtain ⟨hname, hfirst⟩ := Bool.and_eq_true_iff.mp hword
    exact h.word hname hfirst fun c hc ↦ by
      obtain ⟨d, others, rfl⟩ : ∃ d others, following = d :: others := by
        cases following with
        | nil => cases hends
        | cons d others => exact ⟨d, others, rfl⟩
      obtain rfl : d = c := by simpa using hc
      simpa using hends
  | single c =>
    obtain ⟨token, htoken, hscans⟩ := h.singleMark hfits
    rwa [show (Piece.single c).token? = some (token, []) from htoken]
  | operator mark =>
    obtain ⟨hmark, hblank⟩ := Bool.and_eq_true_iff.mp hfits
    obtain ⟨following, rfl⟩ := List.head?_eq_some_iff.mp (beq_iff_eq.mp hblank)
    obtain ⟨token, htoken, hscans⟩ := h.operatorMark hmark
    rwa [show (Piece.operator mark).token? = some (token, []) from htoken]
  | dot =>
    cases following with
    | nil => cases hfits
    | cons c following => exact h.dot hfits
  | quoted letters =>
    rw [Piece.written, List.cons_append, List.append_assoc]
    exact h.quoted hfits
  | number n =>
    obtain ⟨following, rfl⟩ := List.head?_eq_some_iff.mp (beq_iff_eq.mp hfits)
    exact h.number n

/-- Pieces that fit are read as their tokens, and the reading goes on behind them. -/
theorem Scans.pieces {pieces : List Piece} (hfit : allFit pieces = true) (h : Scans rest tokens) :
    Scans (writtenText pieces ++ rest) (pieces.filterMap Piece.token? ++ tokens) := by
  induction pieces with
  | nil => exact h
  | cons piece pieces ih =>
    obtain ⟨hfits, hothers⟩ := Bool.and_eq_true_iff.mp hfit
    have hpiece := Scans.piece hfits (ih hothers)
    have htokens : (piece :: pieces).filterMap Piece.token? =
        piece.token?.toList ++ pieces.filterMap Piece.token? := by
      cases htoken : piece.token? <;> simp [htoken]
    rw [htokens, List.append_assoc, writtenText, List.flatMap_cons, List.append_assoc]
    exact hpiece

end Lexeme

end SsrBuild.Grammar
