/-!
Whether a main module is being generated. Builds and the watcher may do so at the same time, so the
generations under way are counted; each is counted from its beginning to its end, however it ends.
-/

set_option autoImplicit false

namespace SsrBuild

/-- Whether a main module is being generated. -/
inductive LifecycleState
  | idle | generating
  deriving DecidableEq, Repr

/-- The number of generations under way. -/
structure Activity where
  underWay : Nat
  deriving DecidableEq, Repr

namespace Activity

/-- Nothing is under way. -/
def none : Activity := ⟨0⟩

/-- One more generation begins. -/
def enter (activity : Activity) : Activity := ⟨activity.underWay + 1⟩

/-- A generation ends. -/
def leave (activity : Activity) : Activity := ⟨activity.underWay - 1⟩

/-- Generating, as long as anything is under way. -/
def state (activity : Activity) : LifecycleState :=
  if 0 < activity.underWay then .generating else .idle

/-- Leaving undoes entering. -/
@[simp] theorem leave_enter (activity : Activity) : activity.enter.leave = activity := rfl

end Activity

end SsrBuild
