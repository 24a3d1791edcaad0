import AbiBindings.Interface.Description
import AbiBindings.Proofs.Basic

namespace AbiBindings.Interface

section Records

variable {σ : Type} (step : σ → String → Json → Except EntryFault σ)

/-- Members are read one after another. The first that cannot be read decides. -/
def readMembers (s : σ) : List (String × Json) → Except EntryFault σ
  | [] => .ok s
  | (key, value) :: members =>
    match step s key value with
    | .error fault => .error fault
    | .ok s => readMembers s members

/-- The members of a record, where the values of a positional one take the keys in order. -/
def recordMembers (keys : List String) : Json → List (String × Json)
  | .object members => members
  | .array items => keys.zip items
  | _ => []

def checkLength (total required : Nat) (wanted : Wanted) (length : Nat) : Except EntryFault Unit :=
  if total < length then .error (.tooLong length)
  else if length < required then .error (.tooShort wanted)
  else .ok ()

def readRecord (keys : List String) (required : Nat) (wanted : Wanted) (s : σ) (record : Json) :
    Except EntryFault σ :=
  match record with
  | .object members => readMembers step s members
  | .array items =>
    match readMembers step s (keys.zip items) with
    | .error fault => .error fault
    | .ok s => (checkLength keys.length required wanted items.length).map fun () => s
  | found => .error (.wrongType found wanted)

/-- A part as the member with its key has it, or as it was where there is none. -/
def FromMember {α : Type} (key : String) (read : Json → Except EntryFault α) (initial : α)
    (members : List (String × Json)) (part : α) : Prop :=
  match Json.member? key members with
  | some value => read value = .ok part
  | none => part = initial

end Records

section Reading

variable {σ : Type} {step : σ → String → Json → Except EntryFault σ} {s s' : σ}
variable {keys : List String} {required : Nat} {wanted : Wanted} {record : Json}
variable {key : String} {members : List (String × Json)}

/-- The first member is read before the others. -/
theorem readMembers_cons_ok {value : Json}
    (h : readMembers step s ((key, value) :: members) = .ok s') :
    ∃ next, step s key value = .ok next ∧ readMembers step next members = .ok s' := by
  simp only [readMembers] at h
  split at h
  · cases h
  · rename_i next hs
    exact ⟨next, hs, h⟩

theorem readMembers_of_readRecord (h : readRecord step keys required wanted s record = .ok s') :
    readMembers step s (recordMembers keys record) = .ok s' := by
  cases record with
  | object members => exact h
  | array items =>
    simp only [readRecord] at h
    split at h
    · cases h
    · rename_i s₁ hs
      obtain ⟨_, _, rfl⟩ := except_map_ok.mp h
      exact hs
  | _ => cases h

/-- A member that is passed over may be added, in any place and with any value. -/
theorem readMembers_setMember (hignored : ∀ s value, step s key value = .ok s) (value : Json) :
    readMembers step s (Json.setMember key value members) = readMembers step s members := by
  induction members generalizing s with
  | nil =>
    simp only [Json.setMember, readMembers, hignored]
  | cons m members ih =>
    obtain ⟨other, old⟩ := m
    rw [Json.setMember]
    split
    · rename_i hkey
      subst hkey
      simp only [readMembers, hignored]
    · split
      · simp only [readMembers, hignored]
      · simp only [readMembers, ih]

section Replacing

variable {old new : Json} (hsame : ∀ s, step s key new = step s key old)

include hsame

/-- A value may be replaced by one that is read alike. -/
theorem readMembers_replaced {before after : List (String × Json)} :
    readMembers step s (before ++ (key, new) :: after) =
      readMembers step s (before ++ (key, old) :: after) := by
  induction before generalizing s with
  | nil => simp only [List.nil_append, readMembers, hsame]
  | cons m before ih => simp only [List.cons_append, readMembers, ih]

theorem readMembers_zip_replaced {before after : List Json} (h : keys[before.length]? = some key) :
    readMembers step s (keys.zip (before ++ new :: after)) =
      readMembers step s (keys.zip (before ++ old :: after)) := by
  induction before generalizing keys s with
  | nil =>
    obtain ⟨rest, rfl⟩ : ∃ rest, keys = key :: rest := by
      cases keys with
      | nil => cases h
      | cons first rest => exact ⟨rest, by simpa using h⟩
    simp only [List.nil_append, List.zip_cons_cons, readMembers, hsame]
  | cons item before ih =>
    cases keys with
    | nil => rfl
    | cons first rest =>
      have hrest : rest[before.length]? = some key := by simpa using h
      simp only [List.cons_append, List.zip_cons_cons, readMembers, ih hrest]

end Replacing

/-- A part of what is read comes from the one member with its key, and without one it stays. -/
theorem readMembers_part {α : Type} (part : σ → α) (read : Json → Except EntryFault α)
    (hpart : ∀ s other value s', step s other value = .ok s' →
      if other = key then read value = .ok (part s') else part s' = part s)
    (hkeys : (members.map (·.1)).Nodup) (h : readMembers step s members = .ok s') :
    FromMember key read (part s) members (part s') := by
  unfold FromMember
  induction members generalizing s with
  | nil =>
    cases h
    rfl
  | cons m members ih =>
    obtain ⟨other, value⟩ := m
    obtain ⟨next, hstep, hrest⟩ := readMembers_cons_ok h
    obtain ⟨hnew, hkeys⟩ := List.nodup_cons.mp hkeys
    have hlater := ih hkeys hrest
    have hnow := hpart s other value next hstep
    by_cases hkey : other = key
    · subst hkey
      -- No later member has the key, so what is read here stays.
      have hnone : Json.member? other members = none := by
        rw [Json.member?, List.lookup_eq_none_iff]
        intro later hl
        rw [bne_iff_ne]
        intro he
        exact hnew (List.mem_map.mpr ⟨later, hl, he.symm⟩)
      have hself : Json.member? other ((other, value) :: members) = some value := by
        simp [Json.member?]
      rw [hnone] at hlater
      rw [if_pos rfl] at hnow
      rw [hself]
      simp only [hlater]
      exact hnow
    · have hnext : Json.member? key ((other, value) :: members) = Json.member? key members := by
        have hne : (key == other) = false := by simpa using Ne.symm hkey
        simp [Json.member?, List.lookup_cons, hne]
      rw [if_neg hkey] at hnow
      rw [hnext]
      cases hm : Json.member? key members with
      | some found =>
        rw [hm] at hlater
        exact hlater
      | none =>
        rw [hm] at hlater
        exact hlater.trans hnow

end Reading

section Parameters

def parameterKeys : List String := ["name", "type", "internalType", "components", "indexed"]

def readParameterMember (p : RawParameter) (key : String) (value : Json) :
    Except EntryFault RawParameter :=
  if key = "name" then (readOptionalText value).map fun name => { p with name }
  else if key = "type" then (readOptionalText value).map fun type => { p with type }
  else if key = "internalType" then
    (readOptionalText value).map fun internalType => { p with internalType }
  else if key = "components" then
    (readParameters value).map fun components => { p with components }
  else if key = "indexed" then (readTruth value).map fun indexed => { p with indexed }
  else .ok p

/-- What reading a member does to each part of a parameter. -/
structure RawParameter.Step (p : RawParameter) (key : String) (value : Json) (p' : RawParameter) :
    Prop where
  name : if key = "name" then readOptionalText value = .ok p'.name else p'.name = p.name
  type : if key = "type" then readOptionalText value = .ok p'.type else p'.type = p.type
  internalType :
    if key = "internalType" then readOptionalText value = .ok p'.internalType
    else p'.internalType = p.internalType
  components :
    if key = "components" then readParameters value = .ok p'.components
    else p'.components = p.components
  indexed : if key = "indexed" then readTruth value = .ok p'.indexed else p'.indexed = p.indexed

theorem readParameterMember_step {p p' : RawParameter} {key : String} {value : Json}
    (h : readParameterMember p key value = .ok p') : p.Step key value p' := by
  unfold readParameterMember at h
  split_ifs at h
  case neg =>
    cases h
    constructor <;> simp [*]
  all_goals
    obtain ⟨_, _, rfl⟩ := except_map_ok.mp h
    constructor <;> simp [*]

theorem readParameterMember_unknown {key : String} (h : key ∉ parameterKeys) (p : RawParameter)
    (value : Json) : readParameterMember p key value = .ok p := by
  simp only [parameterKeys, List.mem_cons, List.not_mem_nil, or_false, not_or] at h
  simp [readParameterMember, h]

theorem readParameterMembers_eq (p : RawParameter) (members : List (String × Json)) :
    readParameterMembers p members = readMembers readParameterMember p members := by
  induction members generalizing p with
  | nil => rw [readParameterMembers, readMembers]
  | cons m members ih =>
    rw [readParameterMembers, readMembers, ← readParameterMember]
    cases readParameterMember p m.1 m.2 with
    | error fault => rfl
    | ok next => exact ih next

/-- The value in a place is read as the member with the key of the place. -/
theorem readParameterItems_cons {length position : Nat} {p : RawParameter} {key : String}
    {item : Json} {items : List Json} (h : parameterKeys[position]? = some key) :
    readParameterItems length position p (item :: items) =
      match readParameterMember p key item with
      | .error fault => .error fault
      | .ok p => readParameterItems length (position + 1) p items := by
  match position with
  | 0 | 1 | 2 | 3 | 4 =>
    obtain rfl := Option.some.inj h
    rw [readParameterItems]
    rfl
  | _ + 5 => simp [parameterKeys] at h

/-- Reading values by position is reading members under the keys in order. -/
theorem readParameterItems_eq {length position : Nat} {items : List Json} (p : RawParameter)
    (hp : position ≤ parameterKeys.length) (h : position + items.length = length) :
    readParameterItems length position p items =
      match readMembers readParameterMember p ((parameterKeys.drop position).zip items) with
      | .error fault => .error fault
      | .ok p => (checkLength parameterKeys.length 2 .parameter length).map fun () => p := by
  induction items generalizing position p with
  | nil =>
    obtain rfl : position = length := h
    rw [readParameterItems, List.zip_nil_right]
    simp only [readMembers, checkLength, Nat.not_lt.mpr hp, if_false]
    split <;> rfl
  | cons item items ih =>
    rw [List.length_cons] at h
    by_cases hlast : position = parameterKeys.length
    · subst hlast
      have hlong : parameterKeys.length < length := by omega
      rw [List.drop_length, List.zip_nil_left]
      simp only [readMembers, checkLength, hlong, if_true]
      rfl
    · have hlt : position < parameterKeys.length := by omega
      rw [readParameterItems_cons (List.getElem?_eq_getElem hlt), List.drop_eq_getElem_cons hlt,
        List.zip_cons_cons, readMembers]
      cases readParameterMember p parameterKeys[position] item with
      | error fault => rfl
      | ok next => exact ih next hlt (by omega)

theorem readParameter_eq (record : Json) :
    readParameter record = readRecord readParameterMember parameterKeys 2 .parameter {} record := by
  cases record with
  | object members =>
    rw [readParameter, readParameterMembers_eq]
    rfl
  | array items =>
    rw [readParameter, readParameterItems_eq {} (by decide) (Nat.zero_add _), readRecord,
      List.drop_zero]
    cases readMembers readParameterMember {} (parameterKeys.zip items) <;> rfl
  | _ => rw [readParameter, readRecord] <;> simp

end Parameters

section Entries

structure RawEntry.Step (e : RawEntry) (key : String) (value : Json) (e' : RawEntry) : Prop where
  type : if key = "type" then readOptionalText value = .ok e'.type else e'.type = e.type
  name : if key = "name" then readOptionalText value = .ok e'.name else e'.name = e.name
  inputs : if key = "inputs" then readParameters value = .ok e'.inputs else e'.inputs = e.inputs
  outputs :
    if key = "outputs" then readParameters value = .ok e'.outputs else e'.outputs = e.outputs
  mutability :
    if key = "stateMutability" then readOptionalText value = .ok e'.mutability
    else e'.mutability = e.mutability
  constant :
    if key = "constant" then readOptionalTruth value = .ok e'.constant
    else e'.constant = e.constant
  payable :
    if key = "payable" then readOptionalTruth value = .ok e'.payable else e'.payable = e.payable
  anonymous :
    if key = "anonymous" then readTruth value = .ok e'.anonymous else e'.anonymous = e.anonymous

theorem readEntryMember_step {e e' : RawEntry} {key : String} {value : Json}
    (h : readEntryMember e key value = .ok e') : e.Step key value e' := by
  unfold readEntryMember at h
  split_ifs at h
  case neg =>
    cases h
    constructor <;> simp [*]
  all_goals
    obtain ⟨_, _, rfl⟩ := except_map_ok.mp h
    constructor <;> simp [*]

theorem readEntryMember_unknown {key : String} (h : key ∉ entryKeys) (e : RawEntry)
    (value : Json) : readEntryMember e key value = .ok e := by
  simp only [entryKeys, List.mem_cons, List.not_mem_nil, or_false, not_or] at h
  simp [readEntryMember, h]

theorem readEntryMembers_eq (e : RawEntry) (members : List (String × Json)) :
    readEntryMembers e members = readMembers readEntryMember e members := by
  induction members generalizing e with
  | nil => rfl
  | cons m members ih =>
    rw [readEntryMembers, readMembers]
    cases readEntryMember e m.1 m.2 with
    | error fault => rfl
    | ok next => exact ih next

/-- Reading values by position is reading members under the keys in order. -/
theorem readEntryItems_eq {length : Nat} {keys : List String} {items : List Json} (e : RawEntry) :
    readEntryItems length e keys items =
      match readMembers readEntryMember e (keys.zip items) with
      | .error fault => .error fault
      | .ok e => if keys.length < items.length then .error (.tooLong length) else .ok e := by
  induction items generalizing keys e with
  | nil => cases keys <;> simp [readEntryItems, readMembers]
  | cons item items ih =>
    cases keys with
    | nil => simp [readEntryItems, readMembers]
    | cons key keys =>
      rw [readEntryItems, List.zip_cons_cons, readMembers]
      cases readEntryMember e key item with
      | error fault => rfl
      | ok next => simpa using ih next

theorem readEntry_eq (record : Json) :
    readEntry record = readRecord readEntryMember entryKeys 1 .declaration {} record := by
  cases record with
  | object members =>
    rw [readEntry, readEntryMembers_eq]
    rfl
  | array items =>
    cases items with
    | nil => rfl
    | cons item items =>
      simp only [readEntry, readEntryItems_eq, readRecord]
      have hshort : ¬ (item :: items).length < 1 := by simp
      cases readMembers readEntryMember {} (entryKeys.zip (item :: items)) with
      | error fault => rfl
      | ok e =>
        simp only [checkLength, hshort, if_false]
        split <;> rfl
  | _ => rfl

end Entries

end AbiBindings.Interface
