import PullSecretSync.Slot

/-!
# Roles and their slots

Each of the two roles has a slot of its own. What is kept for each role is a function, which is
changed at one role at a time.
-/

namespace PullSecretSync

namespace Role

/-- The slot of a role. -/
def slot : Role → Slot
  | .source => .source
  | .replica => .replica

theorem slot_injective {role other : Role} (h : role.slot = other.slot) : role = other := by
  revert h
  cases role <;> cases other <;> decide

/-- Change what is kept for a role. -/
def set {α : Type} (kept : Role → α) (role : Role) (value : α) : Role → α :=
  fun other => if other = role then value else kept other

variable {α : Type} {kept : Role → α} {role other : Role} {value : α}

@[simp] theorem set_self : set kept role value role = value := if_pos rfl

@[simp] theorem set_of_ne (hne : other ≠ role) : set kept role value other = kept other :=
  if_neg hne

end Role

/-- A slot has the role whose slot it is. -/
theorem Slot.role?_eq_some_iff {slot : Slot} {role : Role} :
    slot.role? = some role ↔ slot = role.slot := by
  unfold Slot.role?
  split
  · rename_i h
    subst h
    cases role <;> decide
  · split
    · rename_i h
      subst h
      cases role <;> decide
    · cases role <;> simp_all [Role.slot]

@[simp] theorem Role.role?_slot (role : Role) : role.slot.role? = some role :=
  Slot.role?_eq_some_iff.mpr rfl

end PullSecretSync
