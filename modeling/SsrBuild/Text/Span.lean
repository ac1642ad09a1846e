/-!
Spans of text measured in bytes of its UTF-8 form, and the text a span covers. A slice is given
only where both ends fall between characters and stand in order.
-/

set_option autoImplicit false

namespace SsrBuild.Text

/-- A half-open range of byte offsets. -/
structure Span where
  start : Nat
  stop : Nat
  deriving DecidableEq, Repr, Inhabited

/-- Does the second span lie inside the first? -/
def Span.covers (outer inner : Span) : Bool :=
  outer.start ≤ inner.start && inner.stop ≤ outer.stop

/-- The number of bytes of a text in UTF-8. -/
def byteCount (text : List Char) : Nat :=
  text.foldr (fun c count => c.utf8Size + count) 0

/-- The byte offset of the place after some characters of a text. -/
def byteOffset (text : List Char) (count : Nat) : Nat := byteCount (text.take count)

/-- A span that counts characters, as one that counts bytes. -/
def Span.inBytes (text : List Char) (span : Span) : Span :=
  ⟨byteOffset text span.start, byteOffset text span.stop⟩

/-- The text before and after a byte offset that falls between two characters. -/
def splitAt? : Nat → List Char → Option (List Char × List Char)
  | 0, text => some ([], text)
  | _ + 1, [] => none
  | n + 1, c :: rest =>
    if c.utf8Size ≤ n + 1 then
      (splitAt? (n + 1 - c.utf8Size) rest).map fun parts => (c :: parts.1, parts.2)
    else none

/-- The text between two byte offsets, in order and between characters. -/
def slice? (text : List Char) (start stop : Nat) : Option (List Char) :=
  if stop < start then none
  else do
    let (_, after) ← splitAt? start text
    let (middle, _) ← splitAt? (stop - start) after
    return middle

@[simp] theorem byteCount_nil : byteCount [] = 0 := rfl

@[simp] theorem byteCount_cons (c : Char) (text : List Char) :
    byteCount (c :: text) = c.utf8Size + byteCount text := rfl

@[simp] theorem byteCount_append (first second : List Char) :
    byteCount (first ++ second) = byteCount first + byteCount second := by
  induction first with
  | nil => simp
  | cons c first ih => simp [ih, Nat.add_assoc]

/-- A division of a text with some bytes before it divides the text behind the first character. -/
theorem exists_tail_of_append {c : Char} {n : Nat} {text before after : List Char}
    (h : c :: text = before ++ after) (hbefore : byteCount before = n + 1) :
    ∃ tail, before = c :: tail ∧ text = tail ++ after ∧ c.utf8Size + byteCount tail = n + 1 := by
  cases before with
  | nil => cases hbefore
  | cons d tail =>
    obtain ⟨rfl, rfl⟩ := List.cons.inj h
    exact ⟨tail, rfl, rfl, hbefore⟩

/-- Splitting at an offset finds the only division with that many bytes before it. -/
theorem splitAt?_eq_some_iff {n : Nat} {text before after : List Char} :
    splitAt? n text = some (before, after) ↔ text = before ++ after ∧ byteCount before = n := by
  fun_induction splitAt? n text generalizing before with
  | case1 text =>
    constructor
    · intro h
      simp only [Option.some.injEq, Prod.mk.injEq] at h
      simp [← h.1, h.2]
    · rintro ⟨rfl, h⟩
      cases before with
      | nil => rfl
      | cons c rest =>
        simp only [byteCount_cons] at h
        have := c.utf8Size_pos
        omega
  | case2 n =>
    constructor
    · intro h
      cases h
    · rintro ⟨h, hn⟩
      obtain ⟨rfl, rfl⟩ := List.append_eq_nil_iff.mp h.symm
      simp at hn
  | case3 n c rest hle ih =>
    constructor
    · intro h
      obtain ⟨parts, hp, hb⟩ := Option.map_eq_some_iff.mp h
      simp only [Prod.mk.injEq] at hb
      obtain ⟨rfl, rfl⟩ := hb
      obtain ⟨h1, h2⟩ := ih.mp hp
      refine ⟨by simp [h1], ?_⟩
      simp only [byteCount_cons, h2]
      omega
    · rintro ⟨h, hn⟩
      obtain ⟨tail, rfl, rfl, hsize⟩ := exists_tail_of_append h hn
      have hrest := (@ih tail).mpr ⟨rfl, by omega⟩
      simp [hrest]
  | case4 n c rest hlt =>
    constructor
    · intro h
      cases h
    · rintro ⟨h, hn⟩
      obtain ⟨tail, rfl, rfl, hsize⟩ := exists_tail_of_append h hn
      omega

/-- The whole text is its slice from end to end. -/
theorem slice?_self (text : List Char) : slice? text 0 (byteCount text) = some text := by
  have h : splitAt? (byteCount text) text = some (text, []) :=
    splitAt?_eq_some_iff.mpr ⟨by simp, rfl⟩
  simp [slice?, splitAt?, h]

end SsrBuild.Text
