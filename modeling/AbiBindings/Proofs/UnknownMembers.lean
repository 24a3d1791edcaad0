import AbiBindings.Proofs.LoadedDeclarations
import Mathlib.Logic.Relation

namespace AbiBindings

namespace Json

variable {key other : String} {value : Json} {members before after : List (String × Json)}

theorem member?_setMember (h : other ≠ key) :
    member? key (setMember other value members) = member? key members := by
  have hskip : ∀ found rest, member? key ((other, found) :: rest) = member? key rest := by
    intro found rest
    simp [member?, List.lookup_cons, beq_eq_false_iff_ne.mpr (Ne.symm h)]
  induction members with
  | nil => exact hskip value []
  | cons m members ih =>
    obtain ⟨first, found⟩ := m
    rw [setMember]
    split
    · rename_i he
      rw [he, hskip, hskip]
    · split
      · exact hskip value _
      · simp only [member?, List.lookup_cons] at ih ⊢
        rw [ih]

theorem member?_replaced : member? key (before ++ (key, value) :: after) =
    (member? key before).or (some value) := by
  simp [member?, List.lookup_append]

/-- A value under another key is not looked at. -/
theorem member?_replaced_other {old new : Json} (h : other ≠ key) :
    member? key (before ++ (other, new) :: after) =
      member? key (before ++ (other, old) :: after) := by
  simp [member?, List.lookup_append, List.lookup_cons, beq_eq_false_iff_ne.mpr (Ne.symm h)]

end Json

namespace Interface

section Gains

/-- One value of a record is another, under its key or in the place of its key. -/
inductive Replaced (keys : List String) (key : String) (old new : Json) : Json → Json → Prop
  | named (before after : List (String × Json)) :
    Replaced keys key old new (.object (before ++ (key, old) :: after))
      (.object (before ++ (key, new) :: after))
  | placed {before : List Json} (after : List Json) (h : keys[before.length]? = some key) :
    Replaced keys key old new (.array (before ++ old :: after)) (.array (before ++ new :: after))

/-- A member with an unknown key is added to a parameter, or to a component at any depth. -/
inductive ParameterGains : Json → Json → Prop
  | own {members : List (String × Json)} {key : String} (value : Json)
    (h : key ∉ parameterKeys) :
    ParameterGains (.object members) (.object (Json.setMember key value members))
  | component {record record' item item' : Json} {front back : List Json}
    (h : ParameterGains item item')
    (hin : Replaced parameterKeys "components" (.array (front ++ item :: back))
      (.array (front ++ item' :: back)) record record') :
    ParameterGains record record'

/-- A member with an unknown key is added to an entry, or within one of its parameters. -/
inductive EntryGains : Json → Json → Prop
  | own {members : List (String × Json)} {key : String} (value : Json) (h : key ∉ entryKeys) :
    EntryGains (.object members) (.object (Json.setMember key value members))
  | parameter {entry entry' item item' : Json} {front back : List Json} {place : String}
    (hplace : place = "inputs" ∨ place = "outputs") (h : ParameterGains item item')
    (hin : Replaced entryKeys place (.array (front ++ item :: back))
      (.array (front ++ item' :: back)) entry entry') :
    EntryGains entry entry'

/-- What an artifact has beside members that nothing reads. -/
def artifactKeys : List String := ["abi", "bytecode", "evm"]

/-- A member with an unknown key is added to an artifact, or within one of the entries. -/
inductive Gains : Json → Json → Prop
  | own {members : List (String × Json)} {key : String} (value : Json) (h : key ∉ artifactKeys) :
    Gains (.object members) (.object (Json.setMember key value members))
  | entry {entry entry' : Json} (front back : List Json) (h : EntryGains entry entry') :
    Gains (.array (front ++ entry :: back)) (.array (front ++ entry' :: back))
  | artifactEntry {root root' entry entry' : Json} {front back : List Json}
    (h : EntryGains entry entry')
    (hin : Replaced [] "abi" (.array (front ++ entry :: back)) (.array (front ++ entry' :: back))
      root root') :
    Gains root root'

def entriesOf? : Json → Option (List Json)
  | .array entries => some entries
  | .object members =>
    match Json.member? "abi" members with
    | some (.array entries) => some entries
    | _ => none
  | _ => none

end Gains

section Records

variable {σ : Type} {step : σ → String → Json → Except EntryFault σ} {s : σ}
variable {keys : List String} {required : Nat} {wanted : Wanted} {key : String}
variable {record record' old new : Json}

/-- A record is read alike when a value of it is replaced by one that is. -/
theorem Replaced.readRecord_eq (h : Replaced keys key old new record record')
    (hsame : ∀ s, step s key new = step s key old) :
    readRecord step keys required wanted s record' =
      readRecord step keys required wanted s record := by
  cases h with
  | named before after => exact readMembers_replaced hsame
  | placed after h =>
    simp only [readRecord, readMembers_zip_replaced hsame h, List.length_append, List.length_cons]

theorem readEachParameter_replaced {item item' : Json} {front back : List Json}
    (h : readParameter item' = readParameter item) :
    readEachParameter (front ++ item' :: back) = readEachParameter (front ++ item :: back) := by
  induction front with
  | nil => simp only [List.nil_append, readEachParameter, h]
  | cons first front ih => simp only [List.cons_append, readEachParameter, ih]

/-- Entries are read alike when one is replaced by one that is. -/
theorem declarationsFrom_replaced {entry entry' : Json} {front back : List Json} {index : Nat}
    (h : declarationOf entry' = declarationOf entry) :
    declarationsFrom index (front ++ entry' :: back) =
      declarationsFrom index (front ++ entry :: back) := by
  induction front generalizing index with
  | nil => simp only [List.nil_append, declarationsFrom, h]
  | cons first front ih => simp only [List.cons_append, declarationsFrom, ih]

end Records

section Reading

variable {json json' : Json}

theorem ParameterGains.read_eq (h : ParameterGains json json') :
    readParameter json' = readParameter json := by
  induction h with
  | own value h =>
    simp only [readParameter_eq]
    exact readMembers_setMember (readParameterMember_unknown h) value
  | component h hin ih =>
    simp only [readParameter_eq]
    refine hin.readRecord_eq fun p => ?_
    simp [readParameterMember, readParameters, readEachParameter_replaced ih]

theorem EntryGains.declarationOf_eq (h : EntryGains json json') :
    declarationOf json' = declarationOf json := by
  have hread : readEntry json' = readEntry json := by
    simp only [readEntry_eq]
    cases h with
    | own value h => exact readMembers_setMember (readEntryMember_unknown h) value
    | parameter hplace h hin =>
      refine hin.readRecord_eq fun e => ?_
      rcases hplace with rfl | rfl <;>
        simp [readEntryMember, readParameters, readEachParameter_replaced h.read_eq]
  rw [declarationOf, declarationOf, hread]

/-- Only two members of an artifact are looked at for bytecode. -/
theorem artifactBytecode_congr {members members' : List (String × Json)}
    (hown : Json.member? "bytecode" members' = Json.member? "bytecode" members)
    (hevm : Json.member? "evm" members' = Json.member? "evm" members) :
    artifactBytecode members' = artifactBytecode members := by
  simp only [artifactBytecode, ownBytecode?, evmBytecode?, hown, hevm]

/-- One member more is never seen. -/
theorem Gains.ofJson_eq (h : Gains json json') : ofJson json' = ofJson json := by
  cases h with
  | own value h =>
    simp only [artifactKeys, List.mem_cons, List.not_mem_nil, or_false, not_or] at h
    obtain ⟨habi, hown, hevm⟩ := h
    simp only [ofJson, Json.member?_setMember habi,
      artifactBytecode_congr (Json.member?_setMember hown) (Json.member?_setMember hevm)]
  | entry front back h => simp only [ofJson, declarationsFrom_replaced h.declarationOf_eq]
  | @artifactEntry _ _ entry entry' front back h hin =>
    cases hin with
    | placed after h => cases h
    | named before after =>
      have hcode : artifactBytecode (before ++ ("abi", .array (front ++ entry' :: back)) :: after) =
          artifactBytecode (before ++ ("abi", .array (front ++ entry :: back)) :: after) :=
        artifactBytecode_congr (Json.member?_replaced_other (by decide))
          (Json.member?_replaced_other (by decide))
      rw [ofJson, ofJson, Json.member?_replaced, Json.member?_replaced, hcode]
      -- An earlier member with the same key would hide the one that changes.
      cases Json.member? "abi" before with
      | some found => rfl
      | none => simp only [Option.none_or, declarationsFrom_replaced h.declarationOf_eq]

theorem ofJson_gains (h : Relation.ReflTransGen Gains json json') : ofJson json' = ofJson json := by
  induction h with
  | refl => rfl
  | tail _ hlast ih => exact hlast.ofJson_eq.trans ih

theorem ofJson_entries {entries : List Json} (h : entriesOf? json = some entries) :
    ∃ code, ofJson json = (declarationsFrom 0 entries).map fun ds => ⟨ds, code⟩ := by
  unfold entriesOf? at h
  split at h
  · cases h
    exact ⟨none, rfl⟩
  · split at h <;> cases h
    rename_i habi
    exact ⟨artifactBytecode _, by rw [ofJson, habi]⟩
  · cases h

theorem entriesOf?_ordered {entries : List Json} (ho : json.Ordered)
    (h : entriesOf? json = some entries) : ∀ entry ∈ entries, entry.Ordered := by
  unfold entriesOf? at h
  split at h
  · cases h
    exact ho.items
  · split at h <;> cases h
    rename_i habi
    exact (ho.orderedMembers.member? habi).items
  · cases h

end Reading

/-- However many unknown members an interface gains, the result of reading it stays as it is. On
success every declaration is built from the entry in its place; a fault is that of the first entry
that cannot be read. -/
theorem unknown_members_ignored :
    (∀ json json', Relation.ReflTransGen Gains json json' → ofJson json' = ofJson json ∧
      ∀ text text', Json.parse? text = some json → Json.parse? text' = some json' →
        parse text' = parse text) ∧
    ∀ text json entries, Json.parse? text = some json → entriesOf? json = some entries →
      match parse text with
      | .ok interface => List.Forall₂ (fun entry d => declarationOf entry = .ok d ∧
          IsDeclaration entry d) entries interface.declarations
      | .error fault => ∃ index found, fault = .entry index found ∧
          FirstFault entries index found := by
  refine ⟨fun json json' hgains => ⟨ofJson_gains hgains, ?_⟩, ?_⟩
  · intro text text' htext htext'
    simp only [parse, htext, htext', ofJson_gains hgains]
  · intro text json entries htext hentries
    obtain ⟨code, hjson⟩ := ofJson_entries hentries
    have ho := entriesOf?_ordered (Json.parse?_ordered htext) hentries
    have hparse : parse text = (declarationsFrom 0 entries).map fun ds => ⟨ds, code⟩ := by
      rw [parse, htext, ← hjson]
    rw [hparse]
    cases hd : declarationsFrom 0 entries with
    | ok ds => exact declarationsFrom_ok ho hd
    | error fault =>
      obtain ⟨index, found, rfl, hfirst⟩ := declarationsFrom_error hd
      exact ⟨index, found, by rw [Nat.zero_add], hfirst⟩

section Listing

set_option maxRecDepth 2000

def markIf (marked : Bool) (members : List (String × Json)) : List (String × Json) :=
  if marked then Json.setMember "id" (.int 0) members else members

def listingEntry (entry parameter component : Bool) : Json :=
  .object (markIf entry [("inputs", .array [
    .object (markIf parameter [("components", .array [
      .object (markIf component [("type", .string "bool")])]), ("type", .string "tuple")])]),
    ("type", .string "receive")])

def listing (artifact entry parameter component : Bool) : Json :=
  .object (markIf artifact [("abi", .array [listingEntry entry parameter component])])

theorem listing_gains : Relation.ReflTransGen Gains (listing false false false false)
    (listing true true true true) := by
  have hcomponent : Gains (listing false false false false) (listing false false false true) :=
    @Gains.artifactEntry _ _ _ _ [] []
      (@EntryGains.parameter _ _ _ _ [] [] "inputs" (.inl rfl)
        (@ParameterGains.component _ _ _ _ [] []
          (.own (.int 0) (by decide : "id" ∉ parameterKeys)) (.named [] _))
        (.named [] _))
      (.named [] _)
  have hparameter : Gains (listing false false false true) (listing false false true true) :=
    @Gains.artifactEntry _ _ _ _ [] []
      (@EntryGains.parameter _ _ _ _ [] [] "inputs" (.inl rfl)
        (.own (.int 0) (by decide : "id" ∉ parameterKeys)) (.named [] _))
      (.named [] _)
  have hentry : Gains (listing false false true true) (listing false true true true) :=
    @Gains.artifactEntry _ _ _ _ [] []
      (.own (.int 0) (by decide : "id" ∉ entryKeys)) (.named [] _)
  have hartifact : Gains (listing false true true true) (listing true true true true) :=
    .own (.int 0) (by decide : "id" ∉ artifactKeys)
  exact .tail (.tail (.tail (.single hcomponent) hparameter) hentry) hartifact

def listingText (mark : String) : String :=
  "\x7b" ++ mark ++ "\"abi\":[\x7b" ++ mark ++ "\"type\":\"receive\",\"inputs\":[\x7b" ++ mark
    ++ "\"type\":\"tuple\",\"components\":[\x7b" ++ mark ++ "\"type\":\"bool\"\x7d]\x7d]\x7d]\x7d"

def mark : String := "\"id\":0,"

/-- A bare array whose entry has no type. -/
def untyped (marked : Bool) : Json := .array [.object (markIf marked [("name", .string "f")])]

theorem untyped_gains : Gains (untyped false) (untyped true) :=
  .entry [] [] (.own (.int 0) (by decide : "id" ∉ entryKeys))

/-- Unknown members at every level change neither the declarations nor a fault. -/
theorem unknown_members_ignored_listing :
    (parse (listingText mark) = parse (listingText "") ∧
      ∃ d code, parse (listingText "") = .ok ⟨[d], code⟩ ∧
        IsDeclaration (listingEntry false false false) d) ∧
    parse "[\x7b\"id\":0,\"name\":\"f\"\x7d]" = parse "[\x7b\"name\":\"f\"\x7d]" ∧
      parse "[\x7b\"name\":\"f\"\x7d]" = .error (.entry 0 .withoutType) := by
  have hplain : Json.parse? (listingText "") = some (listing false false false false) := rfl
  have hmarked : Json.parse? (listingText mark) = some (listing true true true true) := rfl
  have hbad : Json.parse? "[\x7b\"name\":\"f\"\x7d]" = some (untyped false) := rfl
  have hbad' : Json.parse? "[\x7b\"id\":0,\"name\":\"f\"\x7d]" = some (untyped true) := rfl
  generalize listingText "" = plain at hplain ⊢
  refine ⟨⟨(unknown_members_ignored.1 _ _ listing_gains).2 _ _ hplain hmarked, ?_⟩,
    (unknown_members_ignored.1 _ _ (.single untyped_gains)).2 _ _ hbad hbad', ?_⟩
  · have hloaded := unknown_members_ignored.2 _ _ _ hplain
      (rfl : _ = some [listingEntry false false false])
    have hok : (parse plain).isOk = true := by
      rw [parse, hplain]
      rfl
    cases hi : parse plain with
    | ok i =>
      rw [hi] at hloaded
      obtain ⟨declarations, code⟩ := i
      obtain _ | ⟨⟨-, hd⟩, hrest⟩ := hloaded
      cases hrest
      exact ⟨_, code, rfl, hd⟩
    | error fault =>
      rw [hi] at hok
      cases hok
  · rw [parse, hbad]
    rfl

end Listing

end Interface

end AbiBindings
