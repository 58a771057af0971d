import PullSecretSync.Api.Store
import Mathlib.Data.List.Basic
import Mathlib.Data.List.TakeWhile

/-!
# Where secrets are found

A secret is addressed by the path of its namespace and by its name, both of which go into the
address as they are. Where neither holds a character that means something to an address, the address
can be sent, and it tells the slot that it was made of.
-/

namespace PullSecretSync

/-- The character stands for nothing but itself in a segment of a path. -/
def plainChar (c : Char) : Bool :=
  c ≠ '/' && c ≠ '%' && (String.utf8EncodeChar c).all Address.pathByte

namespace Address

/-- A text of characters that may stand in a path. -/
def isPath (text : String) : Bool :=
  text.toList.all fun c => (String.utf8EncodeChar c).all pathByte

/-- Neither a question mark nor a number sign may stand in a path. -/
theorem ne_of_isPath {text : String} (path : isPath text = true) {c : Char}
    (mem : c ∈ text.toList) : c ≠ '?' ∧ c ≠ '#' := by
  have allowed : (String.utf8EncodeChar c).all pathByte = true := List.all_eq_true.mp path c mem
  constructor
  · rintro rfl
    exact absurd allowed (by decide)
  · rintro rfl
    exact absurd allowed (by decide)

theorem isPath_append {text rest : String} :
    isPath (text ++ rest) = true ↔ isPath text = true ∧ isPath rest = true := by
  simp [isPath]

theorem isPath_of_plain {text : String} (plain : text.toList.all plainChar = true) :
    isPath text = true := by
  refine List.all_eq_true.mpr fun c mem => ?_
  have plain := List.all_eq_true.mp plain c mem
  simp only [plainChar, Bool.and_eq_true] at plain
  exact plain.2

/-- What a request has behind its path is a question mark at most. -/
theorem toList_targetEnd (method : Method) :
    (Http.targetEnd method).toList = [] ∨ (Http.targetEnd method).toList = ['?'] := by
  cases method with
  | get => exact .inl rfl
  | _ => exact .inr rfl

/-- What a request has behind its path is no part of the address. -/
theorem ofText_path {path : String} (allowed : isPath path = true)
    (short : path.utf8ByteSize < lengthLimit) (method : Method) :
    ofText (path ++ Http.targetEnd method) = .ok ⟨path, none⟩ := by
  have bytes : (path.toList.flatMap String.utf8EncodeChar).all pathByte = true := by
    rw [List.all_flatMap]
    exact allowed
  have whole : (path ++ Http.targetEnd method).toList.takeWhile (· ≠ '#') =
      path.toList ++ (Http.targetEnd method).toList := by
    rw [String.toList_append, List.takeWhile_eq_self_iff]
    intro c mem
    rcases List.mem_append.mp mem with inside | behind
    · simpa using (ne_of_isPath allowed inside).2
    · rcases toList_targetEnd method with none | mark
      · simp [none] at behind
      · obtain rfl : c = '?' := by simpa [mark] using behind
        decide
  have front : (path.toList ++ (Http.targetEnd method).toList).takeWhile (· ≠ '?') =
      path.toList := by
    rw [List.takeWhile_append_of_pos fun c mem => by simpa using (ne_of_isPath allowed mem).1]
    rcases toList_targetEnd method with none | mark
    · simp [none]
    · simp [mark]
  have unasked : ((path.toList ++ (Http.targetEnd method).toList).drop path.toList.length).drop 1 =
      [] := by
    rw [List.drop_left]
    rcases toList_targetEnd method with none | mark
    · simp [none]
    · simp [mark]
  have fits : ¬ lengthLimit < (path ++ Http.targetEnd method).utf8ByteSize := by
    have little : (Http.targetEnd method).utf8ByteSize ≤ 1 := by cases method <;> decide
    rw [String.utf8ByteSize_append]
    omega
  rw [ofText]
  simp only [whole, front, unasked, fits, bytes, if_false, List.flatMap_nil, List.all_nil,
    Bool.and_true, if_true, List.isEmpty_nil, String.ofList_toList]

end Address

/-! ## The paths of secrets -/

/-- The path of the secret in a slot. -/
def Slot.resource (slot : Slot) : String := secretsPath slot.space ++ "/" ++ slot.name

/-- A slot whose namespace and name can be put into an address. -/
structure Slot.Addressable (slot : Slot) : Prop where
  nonempty : slot.name ≠ ""
  space : slot.space.toList.all plainChar = true
  name : slot.name.toList.all plainChar = true
  /-- The address is not too long. -/
  short : slot.resource.utf8ByteSize < Address.lengthLimit

variable {slot other : Slot}

namespace Slot.Addressable

theorem isPath_secretsPath (addressable : slot.Addressable) :
    Address.isPath (secretsPath slot.space) = true := by
  have path := Address.isPath_of_plain addressable.space
  exact Address.isPath_append.mpr ⟨Address.isPath_append.mpr ⟨rfl, path⟩, rfl⟩

theorem isPath_resource (addressable : slot.Addressable) :
    Address.isPath slot.resource = true := by
  have path := Address.isPath_of_plain addressable.name
  exact Address.isPath_append.mpr
    ⟨Address.isPath_append.mpr ⟨addressable.isPath_secretsPath, rfl⟩, path⟩

theorem short_secretsPath (addressable : slot.Addressable) :
    (secretsPath slot.space).utf8ByteSize < Address.lengthLimit := by
  have short := addressable.short
  rw [resource, String.utf8ByteSize_append, String.utf8ByteSize_append, Nat.add_assoc] at short
  exact Nat.lt_of_le_of_lt (Nat.le_add_right _ _) short

end Slot.Addressable

/-- A plain text ends at the first slash behind it. -/
theorem takeWhile_plain {text : String} (plain : text.toList.all plainChar = true)
    (rest : List Char) : (text.toList ++ '/' :: rest).takeWhile (· ≠ '/') = text.toList := by
  have inside : ∀ c ∈ text.toList, decide (c ≠ '/') = true := by
    intro c mem
    have plain := List.all_eq_true.mp plain c mem
    simp only [plainChar, Bool.and_eq_true] at plain
    exact plain.1.1
  rw [List.takeWhile_append_of_pos inside]
  simp

/-- The path of a namespace's secrets tells the namespace, whatever follows it. -/
theorem eq_of_secretsPath_append_eq {space rest space' rest' : String}
    (plain : space.toList.all plainChar = true) (plain' : space'.toList.all plainChar = true)
    (same : secretsPath space ++ rest = secretsPath space' ++ rest') :
    space = space' ∧ rest = rest' := by
  have slash : "/secrets".toList = '/' :: "secrets".toList := rfl
  have tails : space ++ ("/secrets" ++ rest) = space' ++ ("/secrets" ++ rest') := by
    unfold secretsPath at same
    simpa only [String.append_assoc, String.append_right_inj] using same
  have fronts := congrArg (fun text => text.toList.takeWhile (· ≠ '/')) tails
  simp only [String.toList_append, slash, List.cons_append, takeWhile_plain plain,
    takeWhile_plain plain', String.toList_inj] at fronts
  subst fronts
  exact ⟨rfl, (String.append_right_inj _).mp ((String.append_right_inj _).mp tails)⟩

/-- The path of a secret tells its slot. -/
theorem Slot.Addressable.eq_of_resource_eq (addressable : slot.Addressable)
    (too : other.Addressable) (same : slot.resource = other.resource) : slot = other := by
  obtain ⟨space, name⟩ := slot
  obtain ⟨space', name'⟩ := other
  rw [Slot.resource, Slot.resource, String.append_assoc, String.append_assoc] at same
  obtain ⟨rfl, names⟩ := eq_of_secretsPath_append_eq addressable.space too.space same
  obtain rfl := (String.append_right_inj _).mp names
  rfl

end PullSecretSync
