/-!
Replacement of parts of a text: one character by another wherever it stands, and a word where it
stands first.
-/

set_option autoImplicit false

namespace SsrBuild.Text

/-- Puts a character in every place of another one. -/
def replaceAll (found replacement : Char) (text : List Char) : List Char :=
  text.map fun c => if c == found then replacement else c

/-- Puts a text in the place where a word stands first. -/
def replaceFirst (word replacement : List Char) : List Char → List Char
  | [] => []
  | c :: rest =>
    match word.isPrefixOf? (c :: rest) with
    | some after => replacement ++ after
    | none => c :: replaceFirst word replacement rest

@[simp] theorem replaceAll_append (found replacement : Char) (first second : List Char) :
    replaceAll found replacement (first ++ second) =
      replaceAll found replacement first ++ replaceAll found replacement second := by
  simp [replaceAll]

@[simp] theorem length_replaceAll (found replacement : Char) (text : List Char) :
    (replaceAll found replacement text).length = text.length := by
  simp [replaceAll]

/-- The character that is replaced does not stand in the result. -/
theorem not_mem_replaceAll {found replacement : Char} (h : replacement ≠ found)
    (text : List Char) : found ∉ replaceAll found replacement text := by
  intro hmem
  obtain ⟨c, _, hc⟩ := List.mem_map.mp hmem
  split at hc
  · exact h hc
  · next hne => exact hne (by simp [hc])

end SsrBuild.Text
