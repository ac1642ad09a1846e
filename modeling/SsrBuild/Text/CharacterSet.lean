/-!
Sets of characters given by their boundaries: the ascending code points at which membership
changes. Below the first boundary no character is a member, so a set of many ranges is one list.
-/

set_option autoImplicit false

namespace SsrBuild.Text

/-- Membership of a code point in the set with the given boundaries. -/
def inBoundaries : List Nat → Nat → Bool
  | [], _ => false
  | [first], code => first ≤ code
  | first :: past :: rest, code =>
    if code < first then false else if code < past then true else inBoundaries rest code

end SsrBuild.Text
