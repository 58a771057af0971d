import PullSecretSync.Proofs.Patching

/-!
# Reading what was merged

A merge patch whose members have names of their own patches name by name, and puts nothing else
into an object. A record is built from what is found under the names of its fields, and whatever it
is built from has been checked on the way; so an object that was patched is read as a record if the
old one was and the record can be built from what is found now.
-/

namespace PullSecretSync

namespace Json

variable {name other : String} {value change : Json} {member : String × Json}
  {members changes : List (String × Json)}

@[simp] theorem lookup_removeMember_self : lookup name (removeMember name members) = none := by
  simp [lookup, removeMember]

/-- Leaving out a member leaves the members of other names alone. -/
theorem lookup_removeMember_of_ne (distinct : other ≠ name) :
    lookup other (removeMember name members) = lookup other members := by
  induction members with
  | nil => rfl
  | cons head rest ih =>
    obtain ⟨first, old⟩ := head
    by_cases same : first = name
    · have left : removeMember name ((first, old) :: rest) = removeMember name rest := by
        simp [removeMember, same]
      rw [left, ih, lookup_cons, if_neg (same ▸ distinct.symm)]
    · have kept : removeMember name ((first, old) :: rest) =
          (first, old) :: removeMember name rest := by
        simp [removeMember, same]
      rw [kept, lookup_cons, lookup_cons, ih]

/-- Nothing but the new member comes in. -/
theorem eq_or_mem_of_mem_insertMember (inserted : member ∈ insertMember name value members) :
    member = (name, value) ∨ member ∈ members := by
  induction members with
  | nil => exact .inl (List.mem_singleton.mp inserted)
  | cons head rest ih =>
    obtain ⟨first, old⟩ := head
    rw [insertMember] at inserted
    split at inserted
    · exact List.mem_cons.mp inserted
    · split at inserted
      · exact (List.mem_cons.mp inserted).imp_right (List.mem_cons_of_mem _)
      · rcases List.mem_cons.mp inserted with rfl | later
        · exact .inr List.mem_cons_self
        · exact (ih later).imp_right (List.mem_cons_of_mem _)

/-- A member is found under its name where the names are distinct. -/
theorem lookup_of_mem (distinct : (members.map (·.1)).Nodup) (mem : member ∈ members) :
    lookup member.1 members = some member.2 := by
  induction members with
  | nil => cases mem
  | cons head rest ih =>
    obtain ⟨first, old⟩ := head
    obtain ⟨absent, distinct⟩ := List.nodup_cons.mp distinct
    rw [lookup_cons]
    rcases List.mem_cons.mp mem with rfl | later
    · simp
    · have apart : first ≠ member.1 := fun same =>
        absent (List.mem_map.mpr ⟨member, later, same.symm⟩)
      rw [if_neg apart]
      exact ih distinct later

/-! ## Merge patches -/

/-- What a patch leaves under a name, given what was there and the change, if there is one. -/
def patched (old : Option Json) : Option Json → Option Json
  | none => old
  | some .null => none
  | some change => some ((old.getD .null).merge change)

theorem patched_of_ne_null {old : Option Json} (change_ne : change ≠ .null) :
    patched old (some change) = some ((old.getD .null).merge change) := by
  cases change <;> first | rfl | exact absurd rfl change_ne

theorem mergeMembers_null : mergeMembers members ((name, .null) :: changes) =
    mergeMembers (removeMember name members) changes := by
  rw [mergeMembers]

theorem mergeMembers_of_ne_null (change_ne : change ≠ .null) :
    mergeMembers members ((name, change) :: changes) =
      mergeMembers (insertMember name (((lookup name members).getD .null).merge change) members)
        changes := by
  rw [mergeMembers]
  exact change_ne

/-- A patch leaves the members alone that it does not name. -/
theorem lookup_mergeMembers_of_notMem (absent : name ∉ changes.map (·.1)) :
    lookup name (mergeMembers members changes) = lookup name members := by
  induction changes generalizing members with
  | nil => rw [mergeMembers]
  | cons head rest ih =>
    obtain ⟨first, change⟩ := head
    obtain ⟨apart, absent⟩ := not_or.mp fun named => absent (List.mem_cons.mpr named)
    by_cases null : change = .null
    · rw [null, mergeMembers_null, ih absent, lookup_removeMember_of_ne apart]
    · rw [mergeMembers_of_ne_null null, ih absent, lookup_insertMember_of_ne apart]

/-- A patch of distinct members patches name by name. -/
theorem lookup_mergeMembers (distinct : (changes.map (·.1)).Nodup) (name : String) :
    lookup name (mergeMembers members changes) =
      patched (lookup name members) (lookup name changes) := by
  induction changes generalizing members with
  | nil =>
    rw [mergeMembers]
    rfl
  | cons head rest ih =>
    obtain ⟨first, change⟩ := head
    obtain ⟨absent, distinct⟩ := List.nodup_cons.mp distinct
    rw [lookup_cons]
    split
    · rename_i same
      subst same
      by_cases null : change = .null
      · rw [null, mergeMembers_null, lookup_mergeMembers_of_notMem absent,
          lookup_removeMember_self]
        rfl
      · rw [mergeMembers_of_ne_null null, lookup_mergeMembers_of_notMem absent,
          lookup_insertMember_self, patched_of_ne_null null]
    · rename_i apart
      by_cases null : change = .null
      · rw [null, mergeMembers_null, ih distinct, lookup_removeMember_of_ne (Ne.symm apart)]
      · rw [mergeMembers_of_ne_null null, ih distinct,
          lookup_insertMember_of_ne (Ne.symm apart)]

/-- A member of a patched object was there before, or is the one that counts under its name. -/
theorem mem_or_lookup_of_mem_mergeMembers (distinct : (changes.map (·.1)).Nodup)
    (mem : member ∈ mergeMembers members changes) :
    member ∈ members ∨ lookup member.1 (mergeMembers members changes) = some member.2 := by
  induction changes generalizing members with
  | nil =>
    rw [mergeMembers] at mem
    exact .inl mem
  | cons head rest ih =>
    obtain ⟨first, change⟩ := head
    obtain ⟨absent, distinct⟩ := List.nodup_cons.mp distinct
    by_cases null : change = .null
    · rw [null, mergeMembers_null] at mem ⊢
      exact (ih distinct mem).imp_left fun kept => (List.mem_filter.mp kept).1
    · rw [mergeMembers_of_ne_null null] at mem ⊢
      rcases ih distinct mem with inserted | found
      · rcases eq_or_mem_of_mem_insertMember inserted with rfl | old
        · right
          rw [lookup_mergeMembers_of_notMem absent, lookup_insertMember_self]
        · exact .inl old
      · exact .inr found

end Json

/-! ## Records -/

namespace Fields

variable {α β : Type} {fields : Fields α} {form : Form} {value : α} {list : List Field}
  {members others : List (String × Json)}

theorem checkMembers_cons {member : String × Json} :
    checkMembers list form (member :: members) =
      (match list.find? (·.name == member.1) with
        | some field => field.check form member.2
        | none => .ok ()) >>= fun _ => checkMembers list form members := rfl

/-- Members are checked when every known one passes the check of its field. -/
theorem checkMembers_eq_ok_iff : checkMembers list form members = .ok () ↔
    ∀ member ∈ members, ∀ field, list.find? (·.name == member.1) = some field →
      field.check form member.2 = .ok () := by
  induction members with
  | nil =>
    constructor
    · intro checked member mem
      cases mem
    · intro checked
      rfl
  | cons head rest ih =>
    rw [List.forall_mem_cons, ← ih, checkMembers_cons]
    cases list.find? (·.name == head.1) with
    | none => simp [bind, Except.bind]
    | some field =>
      cases checked : field.check form head.2 <;> simp [checked, bind, Except.bind]

theorem readMembers_eq_ok_iff : fields.readMembers form members = .ok value ↔
    checkMembers fields.list form members = .ok () ∧ fields.build form members = .ok value := by
  rw [readMembers]
  cases checkMembers fields.list form members <;> simp [bind, Except.bind]

/-- Whatever a record is built from passes the check of its field. -/
def Sound (fields : Fields α) : Prop :=
  ∀ form members value, fields.build form members = .ok value →
    ∀ field ∈ fields.list, ∀ doc, Json.lookup field.name members = some doc →
      field.check form doc = .ok ()

namespace Sound

theorem pure (value : α) : (Pure.pure value : Fields α).Sound := by
  intro form members value built field known
  cases known

theorem seq {f : Fields (α → β)} {x : Fields α} (first : f.Sound) (last : x.Sound) :
    (f <*> x).Sound := by
  intro form members value built field known doc found
  rw [build_seq] at built
  obtain ⟨function, argument, builtFunction, builtArgument, -⟩ := seq_eq_ok built
  rcases List.mem_append.mp known with earlier | later
  · exact first form members function builtFunction field earlier doc found
  · exact last form members argument builtArgument field later doc found

theorem map (f : α → β) {x : Fields α} (sound : x.Sound) : (f <$> x).Sound :=
  (Sound.pure f).seq sound

theorem ofField {name : String} {decoder : Decoder α} {required defaulted : Bool}
    {missing : Except DecodeError α} :
    (Fields.ofField name decoder required defaulted missing).Sound := by
  intro form members value built field known doc found
  obtain rfl := List.mem_singleton.mp known
  rw [build_ofField, found] at built
  change (fun _ => ()) <$> decoder.read form doc = _
  rw [show decoder.read form doc = .ok value from built]
  rfl

end Sound

/-- A record is read from members that were checked before or that count under their names, if it
is built from them. -/
theorem readMembers_of_build (sound : fields.Sound)
    (checked : checkMembers fields.list form members = .ok ())
    (known : ∀ member ∈ others,
      member ∈ members ∨ Json.lookup member.1 others = some member.2)
    (built : fields.build form others = .ok value) :
    fields.readMembers form others = .ok value := by
  rw [checkMembers_eq_ok_iff] at checked
  refine readMembers_eq_ok_iff.mpr ⟨checkMembers_eq_ok_iff.mpr ?_, built⟩
  intro member mem field named
  rcases known member mem with old | found
  · exact checked member old field named
  · have same : field.name = member.1 := by simpa using List.find?_some named
    exact sound form others value built field (List.mem_of_find?_eq_some named) member.2
      (by rw [same, found])

/-- A record is read from distinct members if it is built from them. -/
theorem readMembers_of_nodup (sound : fields.Sound) (distinct : (members.map (·.1)).Nodup)
    (built : fields.build form members = .ok value) :
    fields.readMembers form members = .ok value := by
  have checked : checkMembers fields.list form [] = .ok () := rfl
  exact readMembers_of_build sound checked
    (fun _ mem => .inr (Json.lookup_of_mem distinct mem)) built

/-- A record is read from patched members if it was read before and is built from what is found
now. -/
theorem readMembers_mergeMembers {changes : List (String × Json)} (sound : fields.Sound)
    (distinct : (changes.map (·.1)).Nodup)
    (checked : checkMembers fields.list form members = .ok ())
    (built : fields.build form (Json.mergeMembers members changes) = .ok value) :
    fields.readMembers form (Json.mergeMembers members changes) = .ok value :=
  readMembers_of_build sound checked
    (fun _ mem => Json.mem_or_lookup_of_mem_mergeMembers distinct mem) built

end Fields

end PullSecretSync
