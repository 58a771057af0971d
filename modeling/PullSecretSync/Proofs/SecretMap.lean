import PullSecretSync.Sync.SecretMap

/-!
# Laws of maps of secrets

What is found in a slot after one is written or emptied.
-/

namespace PullSecretSync.SecretMap

variable {slot other : Slot}

theorem get?_cons (head : Slot × Secret) (rest : SecretMap) (slot : Slot) :
    get? (head :: rest) slot = if head.1 = slot then some head.2 else rest.get? slot := by
  rw [get?, List.find?_cons]
  by_cases h : head.1 = slot
  · simp [h]
  · simp [h, get?]

/-- A secret is found in the slot it was put into. -/
@[simp] theorem get?_put_self (map : SecretMap) (slot : Slot) (secret : Secret) :
    (map.put slot secret).get? slot = some secret := by
  induction map with
  | nil => simp [put, get?_cons]
  | cons head rest ih =>
    obtain ⟨place, old⟩ := head
    rw [put]
    split
    · simp [get?_cons]
    · split
      · simp [get?_cons]
      · rename_i hne
        simp [get?_cons, Ne.symm hne, ih]

/-- Putting a secret into a slot leaves the other slots alone. -/
theorem get?_put_of_ne (hne : other ≠ slot) (map : SecretMap) (secret : Secret) :
    (map.put slot secret).get? other = map.get? other := by
  induction map with
  | nil => simp [put, get?_cons, hne.symm]
  | cons head rest ih =>
    obtain ⟨place, old⟩ := head
    rw [put]
    split
    · simp [get?_cons, hne.symm]
    · split
      · rename_i heq
        simp [get?_cons, ← heq, hne.symm]
      · simp [get?_cons, ih]

/-- An emptied slot is empty. -/
@[simp] theorem get?_erase_self (map : SecretMap) (slot : Slot) :
    (map.erase slot).get? slot = none := by
  simp [get?, erase]

/-- Emptying a slot leaves the other slots alone. -/
theorem get?_erase_of_ne (hne : other ≠ slot) (map : SecretMap) :
    (map.erase slot).get? other = map.get? other := by
  induction map with
  | nil => rfl
  | cons head rest ih =>
    obtain ⟨place, old⟩ := head
    by_cases h : place = slot
    · have : erase ((place, old) :: rest) slot = erase rest slot := by simp [erase, h]
      rw [this, ih, get?_cons, if_neg (by rw [h]; exact hne.symm)]
    · have : erase ((place, old) :: rest) slot = (place, old) :: erase rest slot := by
        simp [erase, h]
      rw [this, get?_cons, get?_cons, ih]

/-- No slot comes before itself. -/
theorem before_self (slot : Slot) : slot.before slot = false := by
  simp [Slot.before]

/-- Of two secrets that are put into one slot the second stays. -/
@[simp] theorem put_put (map : SecretMap) (slot : Slot) (secret later : Secret) :
    (map.put slot secret).put slot later = map.put slot later := by
  induction map with
  | nil => simp [put, before_self]
  | cons head rest ih =>
    obtain ⟨place, old⟩ := head
    rw [put]
    by_cases first : slot.before place
    · simp [first, put, before_self]
    · by_cases here : slot = place
      · subst here
        simp [before_self, put]
      · simp [first, here, put, ih]

/-- Emptying an empty slot changes nothing. -/
theorem erase_of_get?_eq_none {map : SecretMap} (empty : map.get? slot = none) :
    map.erase slot = map := by
  rw [get?, Option.map_eq_none_iff, List.find?_eq_none] at empty
  refine List.filter_eq_self.mpr fun entry mem => ?_
  simpa using empty entry mem

end PullSecretSync.SecretMap
