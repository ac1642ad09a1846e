import Mathlib.Tactic.Common
import SsrBuild.Text.Span

/-!
Places between characters. A byte offset is a boundary if it falls between two characters, and two
boundaries in order have a slice between them (`exists_slice?`). Slices that meet at a boundary make
up the slice of both (`slice?_split`).
-/

set_option autoImplicit false

namespace SsrBuild.Text

/-- The byte offset falls between two characters of the text, or at one of its ends. -/
def IsBoundary (text : List Char) (offset : Nat) : Prop :=
  ∃ before after, text = before ++ after ∧ byteCount before = offset

/-- The place after some characters is a boundary. -/
theorem isBoundary_byteOffset (text : List Char) (count : Nat) :
    IsBoundary text (byteOffset text count) :=
  ⟨text.take count, text.drop count, (List.take_append_drop count text).symm, rfl⟩

/-- Of two divisions of a text, the one that comes first is a part of the other. -/
theorem exists_append_of_byteCount_le {first second firstRest secondRest : List Char}
    (heq : first ++ firstRest = second ++ secondRest) (hle : byteCount first ≤ byteCount second) :
    ∃ middle, second = first ++ middle ∧ firstRest = middle ++ secondRest := by
  rcases List.append_eq_append_iff.mp heq with ⟨middle, hsecond, hrest⟩ | ⟨middle, hfirst, hrest⟩
  · exact ⟨middle, hsecond, hrest⟩
  · have hempty : middle = [] := by
      cases middle with
      | nil => rfl
      | cons c middle =>
        have hpos := c.utf8Size_pos
        simp only [hfirst, byteCount_append, byteCount_cons] at hle
        omega
    subst hempty
    exact ⟨[], by simpa using hfirst.symm, by simpa using hrest.symm⟩

/-- A slice is what stands between so many bytes before it and the end. -/
theorem slice?_eq_some_iff {text middle : List Char} {start stop : Nat} :
    slice? text start stop = some middle ↔
      ∃ before after, text = before ++ (middle ++ after) ∧ byteCount before = start ∧
        start + byteCount middle = stop := by
  unfold slice?
  split_ifs with hlt
  · refine iff_of_false (by simp) ?_
    rintro ⟨before, after, -, hbefore, hmiddle⟩
    omega
  · constructor
    · intro h
      obtain ⟨⟨before, rest⟩, hfirst, hrest⟩ := Option.bind_eq_some_iff.mp h
      obtain ⟨⟨found, after⟩, hsecond, hfound⟩ := Option.bind_eq_some_iff.mp hrest
      obtain rfl := Option.some.inj hfound
      obtain ⟨rfl, hmiddle⟩ := splitAt?_eq_some_iff.mp hsecond
      obtain ⟨rfl, hbefore⟩ := splitAt?_eq_some_iff.mp hfirst
      exact ⟨before, after, rfl, hbefore, by omega⟩
    · rintro ⟨before, after, rfl, hbefore, hmiddle⟩
      have hfirst : splitAt? start (before ++ (middle ++ after)) =
          some (before, middle ++ after) := splitAt?_eq_some_iff.mpr ⟨rfl, hbefore⟩
      have hsecond : splitAt? (stop - start) (middle ++ after) = some (middle, after) :=
        splitAt?_eq_some_iff.mpr ⟨rfl, by omega⟩
      simp [hfirst, hsecond]

/-- Two boundaries in order have a slice between them. -/
theorem exists_slice? {text : List Char} {start stop : Nat} (hstart : IsBoundary text start)
    (hstop : IsBoundary text stop) (hle : start ≤ stop) :
    ∃ middle, slice? text start stop = some middle := by
  obtain ⟨before, rest, rfl, rfl⟩ := hstart
  obtain ⟨upTo, after, heq, rfl⟩ := hstop
  obtain ⟨middle, rfl, hrest⟩ := exists_append_of_byteCount_le heq hle
  refine ⟨middle, slice?_eq_some_iff.mpr ⟨before, after, by rw [hrest], rfl, ?_⟩⟩
  simp

/-- A boundary inside a slice divides it. -/
theorem slice?_split {text whole : List Char} {start place stop : Nat}
    (hwhole : slice? text start stop = some whole) (hplace : IsBoundary text place)
    (hstart : start ≤ place) (hstop : place ≤ stop) :
    ∃ first second, slice? text start place = some first ∧
      slice? text place stop = some second ∧ whole = first ++ second := by
  obtain ⟨before, after, rfl, hbefore, hcount⟩ := slice?_eq_some_iff.mp hwhole
  obtain ⟨upTo, rest, heq, hupTo⟩ := hplace
  obtain ⟨first, rfl, hfirst⟩ := exists_append_of_byteCount_le heq (by omega)
  rw [byteCount_append] at hupTo
  obtain ⟨second, hsecond, hrest⟩ :=
    exists_append_of_byteCount_le hfirst.symm (by omega)
  subst hsecond
  refine ⟨first, second, ?_, ?_, rfl⟩
  · exact slice?_eq_some_iff.mpr ⟨before, second ++ after, by simp, hbefore, by omega⟩
  · refine slice?_eq_some_iff.mpr ⟨before ++ first, after, by simp, by simp [hupTo], ?_⟩
    rw [byteCount_append] at hcount
    omega

/-- A slice has as many bytes as there are between its ends. -/
theorem add_byteCount_of_slice? {text middle : List Char} {start stop : Nat}
    (h : slice? text start stop = some middle) : start + byteCount middle = stop := by
  obtain ⟨before, after, -, -, hcount⟩ := slice?_eq_some_iff.mp h
  exact hcount

end SsrBuild.Text
