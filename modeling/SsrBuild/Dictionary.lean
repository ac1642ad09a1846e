/-!
Dictionaries: names with values, in the order of the names. A name has one value, the one that was
put in last.
-/

set_option autoImplicit false

namespace SsrBuild

/-- Names with values, in the order of the names. -/
abbrev Dictionary (α : Type) := List (List Char × α)

namespace Dictionary

variable {α : Type}

/-- Gives a name a value in place of the one it may have had. -/
def insert (name : List Char) (value : α) : Dictionary α → Dictionary α
  | [] => [(name, value)]
  | first :: rest =>
    if first.1 == name then (name, value) :: rest
    else if name < first.1 then (name, value) :: first :: rest
    else first :: insert name value rest

/-- Takes a name out. -/
def erase (name : List Char) (dictionary : Dictionary α) : Dictionary α :=
  dictionary.filter fun entry => entry.1 != name

/-- The value of a name. -/
def get? (name : List Char) (dictionary : Dictionary α) : Option α :=
  List.lookup name dictionary

@[simp] theorem get?_nil (name : List Char) : get? name ([] : Dictionary α) = none := rfl

/-- A name that is put in has its new value. -/
@[simp] theorem get?_insert_self (name : List Char) (value : α) (dictionary : Dictionary α) :
    get? name (insert name value dictionary) = some value := by
  induction dictionary with
  | nil => simp [insert, get?]
  | cons first rest ih =>
    obtain ⟨key, kept⟩ := first
    unfold insert
    split
    · simp [get?]
    · next hne =>
      split
      · simp [get?]
      · have hne' : (name == key) = false := by
          simp only [beq_iff_eq] at hne
          simpa using fun h => hne h.symm
        simpa [get?, List.lookup_cons, hne'] using ih

/-- All other names keep their values. -/
theorem get?_insert_of_ne {name other : List Char} (h : other ≠ name) (value : α)
    (dictionary : Dictionary α) :
    get? other (insert name value dictionary) = get? other dictionary := by
  have hbeq : (other == name) = false := by simpa using h
  induction dictionary with
  | nil => simp [insert, get?, List.lookup_cons, hbeq]
  | cons first rest ih =>
    obtain ⟨key, kept⟩ := first
    unfold insert
    split
    · next heq =>
      have : key = name := by simpa using heq
      simp [get?, List.lookup_cons, hbeq, this]
    · split
      · simp [get?, List.lookup_cons, hbeq]
      · simp only [get?, List.lookup_cons] at ih ⊢
        rw [ih]

end Dictionary

end SsrBuild
