import Mathlib.Data.List.Basic
import Mathlib.Tactic.Common
import SsrBuild.Text.Pattern

/-!
What a pattern is found by. A pattern reads some stretches of a text, with regard to what stands
before and behind them (`Reads`); the places that are reached from a place are the ends of the
stretches that are read from it on (`mem_reach_iff`), so a pattern is found in a text exactly if it
reads a stretch of it (`isFoundIn_iff`).
-/

set_option autoImplicit false

namespace SsrBuild.Text.Pattern

/-- The pattern reads a stretch of a text between what stands before it and behind it. -/
def Reads : Pattern → List Char → List Char → List Char → Prop
  | .start, before, found, _ => before = [] ∧ found = []
  | .stop, _, found, behind => behind = [] ∧ found = []
  | .word letters, _, found, _ => found = letters
  | .sequence first second, before, found, behind =>
    ∃ head tail, found = head ++ tail ∧ first.Reads before head (tail ++ behind) ∧
      second.Reads (before ++ head) tail behind
  | .either first second, before, found, behind =>
    first.Reads before found behind ∨ second.Reads before found behind

variable {pattern : Pattern} {before text : List Char}

/-- The places that are reached are the ends of the stretches that are read. -/
theorem mem_reach_iff {there : Place} :
    there ∈ pattern.reach ⟨before.isEmpty, text⟩ ↔
      ∃ found behind, text = found ++ behind ∧ pattern.Reads before found behind ∧
        there = ⟨(before ++ found).isEmpty, behind⟩ := by
  -- The second part of a sequence is read behind the first, so what is before it varies.
  induction pattern generalizing before text there with
  | start =>
    cases before with
    | nil => simp [reach, Reads]
    | cons c before => simp [reach, Reads]
  | stop =>
    cases text with
    | nil => simp [reach, Reads]
    | cons c text =>
      simp only [reach, List.isEmpty_cons, Bool.false_eq_true, if_false, List.not_mem_nil, Reads,
        false_iff]
      rintro ⟨found, behind, htext, ⟨rfl, rfl⟩, -⟩
      cases htext
  | word letters =>
    have hstart : ∀ found : List Char,
        (before ++ found).isEmpty = (before.isEmpty && found.isEmpty) := by
      intro found
      cases before with
      | nil => rfl
      | cons c before => rfl
    simp only [reach, Reads, hstart]
    constructor
    · intro h
      split at h
      · next rest hrest =>
        obtain rfl := List.mem_singleton.mp h
        have htext := List.isPrefixOf?_eq_some_iff_append_eq.mp hrest
        exact ⟨letters, rest, htext.symm, rfl, rfl⟩
      · cases h
    · rintro ⟨found, behind, htext, rfl, rfl⟩
      rw [List.isPrefixOf?_eq_some_iff_append_eq.mpr htext.symm]
      exact List.mem_singleton_self _
  | sequence first second ihFirst ihSecond =>
    simp only [reach, List.mem_flatMap, ihFirst, Reads]
    constructor
    · rintro ⟨_, ⟨head, rest, rfl, hhead, rfl⟩, h⟩
      obtain ⟨tail, behind, rfl, htail, rfl⟩ := ihSecond.mp h
      refine ⟨head ++ tail, behind, (List.append_assoc ..).symm, ⟨head, tail, rfl, hhead, htail⟩, ?_⟩
      rw [List.append_assoc]
    · rintro ⟨_, behind, rfl, ⟨head, tail, rfl, hhead, htail⟩, rfl⟩
      refine ⟨_, ⟨head, tail ++ behind, List.append_assoc .., hhead, rfl⟩, ihSecond.mpr ?_⟩
      exact ⟨tail, behind, rfl, htail, by rw [List.append_assoc]⟩
  | either first second ihFirst ihSecond =>
    simp only [reach, List.mem_append, ihFirst, ihSecond, Reads]
    constructor
    · rintro (⟨found, behind, htext, hread, hthere⟩ | ⟨found, behind, htext, hread, hthere⟩)
      · exact ⟨found, behind, htext, .inl hread, hthere⟩
      · exact ⟨found, behind, htext, .inr hread, hthere⟩
    · rintro ⟨found, behind, htext, hread | hread, hthere⟩
      · exact .inl ⟨found, behind, htext, hread, hthere⟩
      · exact .inr ⟨found, behind, htext, hread, hthere⟩

/-- A place is reached exactly if some stretch is read. -/
theorem not_isEmpty_reach_iff :
    (!(pattern.reach ⟨before.isEmpty, text⟩).isEmpty) = true ↔
      ∃ found behind, text = found ++ behind ∧ pattern.Reads before found behind := by
  rw [Bool.not_eq_true', List.isEmpty_eq_false_iff_exists_mem]
  constructor
  · rintro ⟨there, h⟩
    obtain ⟨found, behind, htext, hread, -⟩ := mem_reach_iff.mp h
    exact ⟨found, behind, htext, hread⟩
  · rintro ⟨found, behind, htext, hread⟩
    exact ⟨_, mem_reach_iff.mpr ⟨found, behind, htext, hread, rfl⟩⟩

/-- In the rest of a text the pattern is found if it reads a stretch of the rest. -/
theorem isFoundFrom_iff :
    pattern.isFoundFrom before.isEmpty text = true ↔
      ∃ passed found behind, text = passed ++ (found ++ behind) ∧
        pattern.Reads (before ++ passed) found behind := by
  induction text generalizing before with
  | nil =>
    rw [isFoundFrom, not_isEmpty_reach_iff]
    constructor
    · rintro ⟨found, behind, htext, hread⟩
      exact ⟨[], found, behind, htext, by rwa [List.append_nil]⟩
    · rintro ⟨passed, found, behind, htext, hread⟩
      obtain ⟨rfl, hrest⟩ := List.append_eq_nil_iff.mp htext.symm
      exact ⟨found, behind, hrest.symm, by rwa [List.append_nil] at hread⟩
  | cons c rest ih =>
    have hstart : false = (before ++ [c]).isEmpty := by simp
    have hrest : pattern.isFoundFrom false rest = true ↔
        ∃ passed found behind, rest = passed ++ (found ++ behind) ∧
          pattern.Reads (before ++ [c] ++ passed) found behind := by
      rw [hstart]
      exact ih
    rw [isFoundFrom, Bool.or_eq_true_iff, not_isEmpty_reach_iff, hrest]
    constructor
    · rintro (⟨found, behind, htext, hread⟩ | ⟨passed, found, behind, rfl, hread⟩)
      · exact ⟨[], found, behind, htext, by rwa [List.append_nil]⟩
      · exact ⟨c :: passed, found, behind, rfl, by rwa [List.append_cons]⟩
    · rintro ⟨passed, found, behind, htext, hread⟩
      cases passed with
      | nil => exact .inl ⟨found, behind, htext, by rwa [List.append_nil] at hread⟩
      | cons d passed =>
        obtain ⟨rfl, rfl⟩ := List.cons.inj htext
        exact .inr ⟨passed, found, behind, rfl, by rwa [List.append_cons] at hread⟩

/-- A pattern is found in a text exactly if it reads a stretch of the text. -/
theorem isFoundIn_iff :
    pattern.isFoundIn text = true ↔
      ∃ before found behind, text = before ++ (found ++ behind) ∧
        pattern.Reads before found behind :=
  @isFoundFrom_iff pattern [] text

end SsrBuild.Text.Pattern
