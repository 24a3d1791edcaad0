import AbiBindings.Proofs.OrderedJson
import AbiBindings.Proofs.RecordReading

namespace AbiBindings

theorem Kind.text_of_ofText? {s : String} {kind : Kind} (h : Kind.ofText? s = some kind) :
    kind.text = s := by
  simpa using List.find?_some h

theorem Mutability.text_of_ofText? {s : String} {mutability : Mutability}
    (h : Mutability.ofText? s = some mutability) : mutability.text = s := by
  simpa using List.find?_some h

namespace Interface

section Members

variable (key : String) (members : List (String × Json))

/-- The text under a key. What is missing and what is `null` is no text. -/
def textOf? : Option String :=
  match Json.member? key members with
  | some (.string s) => some s
  | _ => none

def truthOf : Bool :=
  match Json.member? key members with
  | some (.bool b) => b
  | _ => false

def itemsOf : List Json :=
  match Json.member? key members with
  | some (.array items) => items
  | _ => []

end Members

/-- The parameter that a record describes. Its components are those of the record, in their order
and at every depth. -/
inductive IsParameter : Json → Parameter → Prop
  | intro {record : Json} {p : Parameter}
    (hname : p.name = (textOf? "name" (recordMembers parameterKeys record)).getD "")
    (htype : textOf? "type" (recordMembers parameterKeys record) = some p.typeText)
    (hinternal : p.internalType = textOf? "internalType" (recordMembers parameterKeys record))
    (hindexed : p.indexed = truthOf "indexed" (recordMembers parameterKeys record))
    (hcomponents : List.Forall₂ IsParameter
      (itemsOf "components" (recordMembers parameterKeys record)) p.components) :
    IsParameter record p

/-- The declaration that an entry describes, with inputs and outputs in the order of the entry. -/
structure IsDeclaration (entry : Json) (d : Declaration) : Prop where
  kind : textOf? "type" (recordMembers entryKeys entry) = some d.kind.text
  name : d.name = (textOf? "name" (recordMembers entryKeys entry)).filter (· ≠ "")
  named : d.kind.isNamed → d.name.isSome
  inputs : List.Forall₂ IsParameter (itemsOf "inputs" (recordMembers entryKeys entry)) d.inputs
  outputs : List.Forall₂ IsParameter (itemsOf "outputs" (recordMembers entryKeys entry)) d.outputs
  mutability :
    match textOf? "stateMutability" (recordMembers entryKeys entry) with
    | some text => d.mutability.text = text
    | none =>
      d.mutability =
        if truthOf "payable" (recordMembers entryKeys entry) then .payable
        else if truthOf "constant" (recordMembers entryKeys entry) then .view
        else .nonpayable
  anonymous : d.anonymous = truthOf "anonymous" (recordMembers entryKeys entry)

section Records

variable {record : Json} {keys : List String}

theorem recordMembers_nodup (hkeys : keys.Nodup) (h : record.Ordered) :
    ((recordMembers keys record).map (·.1)).Nodup := by
  cases record with
  | object members => exact h.orderedMembers.nodup
  | array items =>
    rw [recordMembers, List.zip_eq_zip_take_min, List.map_fst_zip (by simp)]
    exact hkeys.sublist (List.take_sublist _ _)
  | _ => exact List.nodup_nil

theorem recordMembers_ordered (h : record.Ordered) :
    ∀ m ∈ recordMembers keys record, m.2.Ordered := by
  cases record with
  | object members => exact h.orderedMembers.values
  | array items =>
    intro m hm
    exact h.items m.2 (List.of_mem_zip hm).2
  | _ => simp [recordMembers]

theorem itemsOf_ordered {key : String} {members : List (String × Json)}
    (h : ∀ m ∈ members, m.2.Ordered) : ∀ item ∈ itemsOf key members, item.Ordered := by
  unfold itemsOf
  split
  · rename_i items hm
    obtain ⟨before, after, rfl, -⟩ := List.lookup_eq_some_iff.mp hm
    exact (h (key, .array items) (by simp)).items
  · simp

end Records

namespace FromMember

variable {key : String} {members : List (String × Json)}

theorem text {part : Option String} (h : FromMember key readOptionalText none members part) :
    part = textOf? key members := by
  unfold FromMember at h
  unfold textOf?
  cases hm : Json.member? key members with
  | none => simpa [hm] using h
  | some value =>
    rw [hm] at h
    cases value <;> simp_all [readOptionalText]

theorem truth {part : Bool} (h : FromMember key readTruth false members part) :
    part = truthOf key members := by
  unfold FromMember at h
  unfold truthOf
  cases hm : Json.member? key members with
  | none => simpa [hm] using h
  | some value =>
    rw [hm] at h
    cases value <;> simp_all [readTruth]

theorem optionalTruth {part : Option Bool}
    (h : FromMember key readOptionalTruth none members part) :
    part = some true ↔ truthOf key members = true := by
  unfold FromMember at h
  unfold truthOf
  cases hm : Json.member? key members with
  | none => simp_all
  | some value =>
    rw [hm] at h
    cases value <;> simp_all [readOptionalTruth, eq_comm]

theorem parameters {part : List RawParameter} (h : FromMember key readParameters [] members part) :
    readEachParameter (itemsOf key members) = .ok part := by
  unfold FromMember at h
  unfold itemsOf
  cases hm : Json.member? key members with
  | none => simp_all [readEachParameter]
  | some value =>
    rw [hm] at h
    cases value <;> simp_all [readParameters]

end FromMember

section Parameters

structure RawParameter.IsRead (members : List (String × Json)) (p : RawParameter) : Prop where
  name : p.name = textOf? "name" members
  type : p.type = textOf? "type" members
  internalType : p.internalType = textOf? "internalType" members
  components : readEachParameter (itemsOf "components" members) = .ok p.components
  indexed : p.indexed = truthOf "indexed" members

theorem readParameter_isRead {record : Json} {p : RawParameter} (ho : record.Ordered)
    (h : readParameter record = .ok p) : p.IsRead (recordMembers parameterKeys record) := by
  rw [readParameter_eq] at h
  have hread := readMembers_of_readRecord h
  have hkeys : ((recordMembers parameterKeys record).map (·.1)).Nodup :=
    recordMembers_nodup (by decide) ho
  have hname := readMembers_part RawParameter.name readOptionalText
    (fun _ _ _ _ hs => (readParameterMember_step hs).name) hkeys hread
  have htype := readMembers_part RawParameter.type readOptionalText
    (fun _ _ _ _ hs => (readParameterMember_step hs).type) hkeys hread
  have hinternal := readMembers_part RawParameter.internalType readOptionalText
    (fun _ _ _ _ hs => (readParameterMember_step hs).internalType) hkeys hread
  have hcomponents := readMembers_part RawParameter.components readParameters
    (fun _ _ _ _ hs => (readParameterMember_step hs).components) hkeys hread
  have hindexed := readMembers_part RawParameter.indexed readTruth
    (fun _ _ _ _ hs => (readParameterMember_step hs).indexed) hkeys hread
  exact ⟨hname.text, htype.text, hinternal.text, hcomponents.parameters, hindexed.truth⟩

/-- A parameter is made of what was read, with its type at least. -/
theorem RawParameter.toParameter_ok {raw : RawParameter} {position : Nat} {p : Parameter}
    (h : raw.toParameter position = .ok p) :
    raw.type = some p.typeText ∧ p.name = raw.name.getD "" ∧ p.internalType = raw.internalType ∧
      RawParameter.toParameters 0 raw.components = .ok p.components ∧ p.indexed = raw.indexed := by
  obtain ⟨name, _ | typeText, internalType, components, indexed⟩ := raw
  · cases h
  · obtain ⟨converted, hc, rfl⟩ := except_map_ok.mp h
    exact ⟨rfl, rfl, rfl, hc, rfl⟩

theorem RawParameter.toParameters_cons_ok {raw : RawParameter} {raws : List RawParameter}
    {position : Nat} {ps : List Parameter}
    (h : RawParameter.toParameters position (raw :: raws) = .ok ps) :
    ∃ p rest, raw.toParameter position = .ok p ∧
      RawParameter.toParameters (position + 1) raws = .ok rest ∧ ps = p :: rest := by
  rw [RawParameter.toParameters] at h
  split at h
  · cases h
  · rename_i p hp
    obtain ⟨rest, hrest, rfl⟩ := except_map_ok.mp h
    exact ⟨p, rest, hp, hrest, rfl⟩

theorem readEachParameter_cons_ok {item : Json} {items : List Json} {raws : List RawParameter}
    (h : readEachParameter (item :: items) = .ok raws) :
    ∃ raw rest, readParameter item = .ok raw ∧ readEachParameter items = .ok rest ∧
      raws = raw :: rest := by
  rw [readEachParameter] at h
  split at h
  · cases h
  · rename_i raw hraw
    obtain ⟨rest, hrest, rfl⟩ := except_map_ok.mp h
    exact ⟨raw, rest, hraw, hrest, rfl⟩

mutual

/-- What is read and required from a record is the parameter it describes. -/
theorem isParameter_of_read {record : Json} {position : Nat} {p : Parameter} (raw : RawParameter)
    (ho : record.Ordered) (hread : readParameter record = .ok raw)
    (h : raw.toParameter position = .ok p) : IsParameter record p := by
  have hraw := readParameter_isRead ho hread
  obtain ⟨htype, hname, hinternal, hcomponents, hindexed⟩ := RawParameter.toParameter_ok h
  match raw with
  | ⟨name, type, internalType, components, indexed⟩ =>
    have hitems : ∀ item ∈ itemsOf "components" (recordMembers parameterKeys record),
        item.Ordered := itemsOf_ordered (recordMembers_ordered ho)
    exact .intro (hname.trans (congrArg (·.getD "") hraw.name)) (hraw.type ▸ htype)
      (hinternal.trans hraw.internalType) (hindexed.trans hraw.indexed)
      (areParameters_of_read components hitems hraw.components hcomponents)

theorem areParameters_of_read {items : List Json} {position : Nat} {ps : List Parameter}
    (raws : List RawParameter) (ho : ∀ item ∈ items, item.Ordered)
    (hread : readEachParameter items = .ok raws)
    (h : RawParameter.toParameters position raws = .ok ps) : List.Forall₂ IsParameter items ps := by
  match raws, items with
  | [], [] =>
    cases h
    exact .nil
  | [], item :: items =>
    obtain ⟨_, _, -, -, he⟩ := readEachParameter_cons_ok hread
    cases he
  | raw :: raws, [] => cases hread
  | raw :: raws, item :: items =>
    obtain ⟨hitem, hitems⟩ := List.forall_mem_cons.mp ho
    obtain ⟨_, _, hr, hrs, he⟩ := readEachParameter_cons_ok hread
    cases he
    obtain ⟨p, rest, hp, hrest, rfl⟩ := RawParameter.toParameters_cons_ok h
    exact .cons (isParameter_of_read raw hitem hr hp) (areParameters_of_read raws hitems hrs hrest)

end

end Parameters

section Entries

structure RawEntry.IsRead (members : List (String × Json)) (e : RawEntry) : Prop where
  type : e.type = textOf? "type" members
  name : e.name = textOf? "name" members
  inputs : readEachParameter (itemsOf "inputs" members) = .ok e.inputs
  outputs : readEachParameter (itemsOf "outputs" members) = .ok e.outputs
  mutability : e.mutability = textOf? "stateMutability" members
  constant : e.constant = some true ↔ truthOf "constant" members = true
  payable : e.payable = some true ↔ truthOf "payable" members = true
  anonymous : e.anonymous = truthOf "anonymous" members

theorem readEntry_isRead {entry : Json} {e : RawEntry} (ho : entry.Ordered)
    (h : readEntry entry = .ok e) : e.IsRead (recordMembers entryKeys entry) := by
  rw [readEntry_eq] at h
  have hread := readMembers_of_readRecord h
  have hkeys : ((recordMembers entryKeys entry).map (·.1)).Nodup :=
    recordMembers_nodup (by decide) ho
  have htype := readMembers_part RawEntry.type readOptionalText
    (fun _ _ _ _ hs => (readEntryMember_step hs).type) hkeys hread
  have hname := readMembers_part RawEntry.name readOptionalText
    (fun _ _ _ _ hs => (readEntryMember_step hs).name) hkeys hread
  have hinputs := readMembers_part RawEntry.inputs readParameters
    (fun _ _ _ _ hs => (readEntryMember_step hs).inputs) hkeys hread
  have houtputs := readMembers_part RawEntry.outputs readParameters
    (fun _ _ _ _ hs => (readEntryMember_step hs).outputs) hkeys hread
  have hmutability := readMembers_part RawEntry.mutability readOptionalText
    (fun _ _ _ _ hs => (readEntryMember_step hs).mutability) hkeys hread
  have hconstant := readMembers_part RawEntry.constant readOptionalTruth
    (fun _ _ _ _ hs => (readEntryMember_step hs).constant) hkeys hread
  have hpayable := readMembers_part RawEntry.payable readOptionalTruth
    (fun _ _ _ _ hs => (readEntryMember_step hs).payable) hkeys hread
  have hanonymous := readMembers_part RawEntry.anonymous readTruth
    (fun _ _ _ _ hs => (readEntryMember_step hs).anonymous) hkeys hread
  exact ⟨htype.text, hname.text, hinputs.parameters, houtputs.parameters, hmutability.text,
    hconstant.optionalTruth, hpayable.optionalTruth, hanonymous.truth⟩

namespace RawEntry

variable {e : RawEntry}

theorem kind_ok {kind : Kind} (h : e.kind = .ok kind) : e.type = some kind.text := by
  unfold RawEntry.kind at h
  split at h
  · cases h
  · rename_i type htype
    split at h
    · cases h
    · rename_i found hfound
      cases h
      rw [htype, Kind.text_of_ofText? hfound]

/-- The mutability is the one written, or what the older flags say. -/
theorem givenMutability_ok {mutability : Mutability} (h : e.givenMutability = .ok mutability) :
    match e.mutability with
    | some text => mutability.text = text
    | none =>
      mutability =
        if e.payable = some true then .payable
        else if e.constant = some true then .view
        else .nonpayable := by
  unfold givenMutability at h
  cases hwritten : e.mutability with
  | some text =>
    simp only [hwritten] at h ⊢
    split at h
    · cases h
    · rename_i found hfound
      cases h
      exact Mutability.text_of_ofText? hfound
  | none =>
    simp only [hwritten] at h ⊢
    split_ifs at h ⊢ <;> cases h <;> rfl

/-- A declaration is made of what was read, with all that its kind requires. -/
theorem toDeclaration_ok {d : Declaration} (h : e.toDeclaration = .ok d) :
    e.kind = .ok d.kind ∧ (d.kind.isNamed → d.name.isSome) ∧ d.name = e.givenName ∧
      e.givenMutability = .ok d.mutability ∧ RawParameter.toParameters 0 e.inputs = .ok d.inputs ∧
      RawParameter.toParameters 0 e.outputs = .ok d.outputs ∧ d.anonymous = e.anonymous := by
  unfold toDeclaration at h
  split at h
  · cases h
  rename_i kind hkind
  split_ifs at h with hnameless
  split at h
  · cases h
  rename_i mutability hmutability
  split at h
  · cases h
  rename_i inputs hinputs
  split at h
  · cases h
  rename_i outputs houtputs
  cases h
  refine ⟨hkind, ?_, rfl, hmutability, hinputs, houtputs, rfl⟩
  intro hnamed
  by_contra hnone
  exact hnameless ⟨hnamed, by simpa using hnone⟩

end RawEntry

/-- A declaration is built from what its entry says and from nothing else. -/
theorem declarationOf_isDeclaration {entry : Json} {d : Declaration} (ho : entry.Ordered)
    (h : declarationOf entry = .ok d) : IsDeclaration entry d := by
  unfold declarationOf at h
  split at h
  · cases h
  rename_i e he
  have hread := readEntry_isRead ho he
  obtain ⟨hkind, hnamed, hname, hmutability, hinputs, houtputs, hanonymous⟩ :=
    RawEntry.toDeclaration_ok h
  have hvalues : ∀ m ∈ recordMembers entryKeys entry, m.2.Ordered := recordMembers_ordered ho
  refine ⟨hread.type ▸ RawEntry.kind_ok hkind, ?_, hnamed, ?_, ?_, ?_, ?_⟩
  · rw [hname, RawEntry.givenName, hread.name]
  · exact areParameters_of_read e.inputs (itemsOf_ordered hvalues) hread.inputs hinputs
  · exact areParameters_of_read e.outputs (itemsOf_ordered hvalues) hread.outputs houtputs
  · have hgiven := RawEntry.givenMutability_ok hmutability
    simp only [hread.payable, hread.constant] at hgiven
    rw [← hread.mutability]
    exact hgiven
  · exact hanonymous.trans hread.anonymous

/-- The first entry that cannot be read, and the fault it has by itself. -/
structure FirstFault (entries : List Json) (index : Nat) (fault : EntryFault) : Prop where
  fails : ∃ entry, entries[index]? = some entry ∧ declarationOf entry = .error fault
  before : ∀ entry ∈ entries.take index, ∃ d, declarationOf entry = .ok d

/-- Entries are read independently of each other, in their order. -/
theorem declarationsFrom_ok {entries : List Json} {start : Nat} {ds : List Declaration}
    (ho : ∀ entry ∈ entries, entry.Ordered) (h : declarationsFrom start entries = .ok ds) :
    List.Forall₂ (fun entry d => declarationOf entry = .ok d ∧ IsDeclaration entry d)
      entries ds := by
  induction entries generalizing start ds with
  | nil =>
    cases h
    exact .nil
  | cons entry entries ih =>
    obtain ⟨hentry, hentries⟩ := List.forall_mem_cons.mp ho
    rw [declarationsFrom] at h
    split at h
    · cases h
    · rename_i d hd
      obtain ⟨rest, hrest, rfl⟩ := except_map_ok.mp h
      exact .cons ⟨hd, declarationOf_isDeclaration hentry hd⟩ (ih hentries hrest)

/-- The first entry that cannot be read is the one reported, by its number. -/
theorem declarationsFrom_error {entries : List Json} {start : Nat} {fault : Fault}
    (h : declarationsFrom start entries = .error fault) :
    ∃ index found, fault = .entry (start + index) found ∧ FirstFault entries index found := by
  induction entries generalizing start with
  | nil => cases h
  | cons entry entries ih =>
    rw [declarationsFrom] at h
    split at h
    · rename_i found hfound
      cases h
      exact ⟨0, found, rfl, ⟨entry, rfl, hfound⟩, by simp⟩
    · rename_i d hd
      cases hrest : declarationsFrom (start + 1) entries with
      | ok rest =>
        rw [hrest] at h
        cases h
      | error rest =>
        rw [hrest] at h
        cases h
        obtain ⟨index, found, rfl, hfirst⟩ := ih hrest
        refine ⟨index + 1, found, by rw [Nat.add_assoc, Nat.add_comm 1], ?_, ?_⟩
        · simpa using hfirst.fails
        · rw [List.take_succ_cons]
          exact List.forall_mem_cons.mpr ⟨⟨d, hd⟩, hfirst.before⟩

end Entries

end Interface

end AbiBindings
