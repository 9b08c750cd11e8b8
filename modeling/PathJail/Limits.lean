import PathJail.Error

/-!
# Limits

Two numbers bound the work that a client can cause. Every path that the resolver assembles has to
stay strictly shorter, in bytes, than `maxPathLength`; a longer one is an error and is never cut.
Opening a directory follows at most `maxLinks` symbolic links.
-/

namespace PathJail

structure Limits where
  /-- Exclusive bound on the length of a path in bytes. -/
  maxPathLength : Nat := 4096
  /-- Symbolic links that opening a directory may follow. -/
  maxLinks : Nat := 32
  deriving DecidableEq, Repr

namespace Limits

/-- The largest value that a limit can be set to. -/
def greatest : Nat := UInt64.size - 1

/-- Limits that no path of practical size meets. -/
def unlimited : Limits := ⟨greatest, greatest⟩

/-- Refuses a length that is not below the bound; the bound leaves room for a terminator. -/
def check (limits : Limits) (length : Nat) : Except Error Unit :=
  if limits.maxPathLength ≤ length then .error (.nameTooLong length limits.maxPathLength)
  else .ok ()

theorem check_eq_ok_iff {limits : Limits} {length : Nat} :
    limits.check length = .ok () ↔ length < limits.maxPathLength := by
  unfold check
  split <;> simp_all

end Limits

end PathJail
