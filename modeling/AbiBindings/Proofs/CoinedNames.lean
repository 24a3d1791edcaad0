import AbiBindings.Bindings.Functions
import AbiBindings.Proofs.Scopes

namespace AbiBindings

def Text.isAsciiWordChar (c : Char) : Bool := c.isAlphanum || c = '_'

def IsAsciiWord (s : String) : Prop := ∀ c ∈ s.toList, Text.isAsciiWordChar c = true

instance (s : String) : Decidable (IsAsciiWord s) :=
  List.decidableBAll (fun c => Text.isAsciiWordChar c = true) s.toList

section AsciiWords

variable {a b : String}

@[simp] theorem isAsciiWord_append : IsAsciiWord (a ++ b) ↔ IsAsciiWord a ∧ IsAsciiWord b := by
  simp only [IsAsciiWord, String.toList_append, List.forall_mem_append]

@[simp] theorem isAsciiWord_repr (n : Nat) : IsAsciiWord n.repr := by
  intro c hc
  have hd : c ∈ Nat.toDigits 10 n := by simpa using hc
  have hdigit := Nat.isDigit_of_mem_toDigits (by decide) (by decide) hd
  simp [Text.isAsciiWordChar, Char.isAlphanum, hdigit]

theorem isAsciiWord_join {items : List String} (h : ∀ item ∈ items, IsAsciiWord item) :
    IsAsciiWord (String.join items) := by
  intro c hc
  simp only [String.toList_join, List.mem_flatMap] at hc
  obtain ⟨item, hm, hc⟩ := hc
  exact h item hm c hc

theorem isAsciiWord_intercalate {separator : String} {items : List String} (hs : IsAsciiWord separator)
    (h : ∀ item ∈ items, IsAsciiWord item) : IsAsciiWord (separator.intercalate items) := by
  rw [IsAsciiWord, String.toList_intercalate]
  refine forall_mem_intercalate hs ?_
  simpa [IsAsciiWord] using h

theorem Naming.isTypeLike_ascii {raw : String} (h : isTypeLike raw = true) :
    IsAsciiWord raw ∧ raw ≠ "_" := by
  refine ⟨?_, ?_⟩
  · simp only [isTypeLike] at h
    split at h
    · rename_i c cs hc
      simp only [Bool.and_eq_true, List.all_eq_true] at h
      rw [IsAsciiWord, hc]
      exact h.2
    · cases h
  · rintro rfl
    exact absurd h (by decide)

end AsciiWords

/-- Signs of which no keyword has one. -/
def Text.isMark (c : Char) : Bool := c.isDigit || c = '_' || c = 'E'

/-- What may be added to a name: signs of ASCII words with a mark among them. -/
structure IsTail (s : String) : Prop where
  word : IsAsciiWord s
  marked : ∃ c ∈ s.toList, Text.isMark c = true

section Tails

variable {a b : String}

theorem IsTail.append (h : IsTail a) (hb : IsAsciiWord b) : IsTail (a ++ b) := by
  obtain ⟨c, hc, hm⟩ := h.marked
  exact ⟨isAsciiWord_append.mpr ⟨h.word, hb⟩, c, by simp [hc], hm⟩

theorem isTail_number {separator : String} (hs : IsAsciiWord separator) (n : Nat) :
    IsTail (separator ++ toString n) := by
  refine ⟨by simp [hs], ?_⟩
  obtain ⟨c, hc⟩ : ∃ c, c ∈ Nat.toDigits 10 n :=
    List.exists_mem_of_ne_nil _ Nat.toDigits_ne_nil
  have hdigit := Nat.isDigit_of_mem_toDigits (by decide) (by decide) hc
  exact ⟨c, by simp [hc], by simp [Text.isMark, hdigit]⟩

theorem isTail_overload {suffix : String} (hs : IsAsciiWord suffix) : IsTail ("_with_" ++ suffix) :=
  IsTail.append ⟨by decide, '_', by decide, by decide⟩ hs

end Tails

/-- Names that do not depend on the interface, and what numbers are put after. -/
def Naming.labels : List String :=
  ["contract", "function", "log", "Contract", "Event", "Error", "Struct", "param", "value", "field",
    "wei_value", "provider"]

def Naming.heads : List String := ["send_", "call_", "encode_"]

/-- The ways in which a generated name comes about from labels and raw names. -/
inductive Coined (Raw : String → Prop) : String → Prop
  | label {name : String} (h : name ∈ Naming.labels) : Coined Raw name
  | value {raw fallback : String} (hr : Raw raw) (hf : Coined Raw fallback) :
    Coined Raw (Naming.valueIdent raw fallback)
  | type {raw fallback : String} (hr : Raw raw) (hf : Coined Raw fallback) :
    Coined Raw (Naming.typeIdent raw fallback)
  | tail {name rest : String} (h : Coined Raw name) (ht : IsTail rest) : Coined Raw (name ++ rest)
  | head {start name : String} (hs : start ∈ Naming.heads) (h : Coined Raw name) :
    Coined Raw (start ++ name)

section Claims

variable {Raw : String → Prop} {s s' : Scope} {base separator name : String}

theorem Coined.numbered (h : Coined Raw base) (hs : IsAsciiWord separator) (n : Nat) :
    Coined Raw (base ++ separator ++ toString n) := by
  rw [String.append_assoc]
  exact h.tail (isTail_number hs n)

theorem Coined.counted (h : base ∈ Naming.labels) (n : Nat) : Coined Raw (base ++ toString n) := by
  have hlabel : Coined Raw base := .label h
  have hnumbered : Coined Raw (base ++ "" ++ toString n) := hlabel.numbered (by decide) n
  rwa [String.append_empty] at hnumbered

theorem Coined.claimNumbered (hb : Coined Raw base) (hs : IsAsciiWord separator)
    (h : s.claimNumbered base separator = (name, s')) : Coined Raw name := by
  obtain ⟨_, _, ⟨_, rfl⟩ | ⟨_, k, _, rfl, _⟩⟩ := Scope.claimNumbered_cases h
  · exact hb
  · exact hb.numbered hs k

theorem Coined.claimPositional {position : Nat} {renamed : Bool} (hb : Coined Raw base)
    (h : s.claimPositional base position = ((name, renamed), s')) : Coined Raw name := by
  simp only [Scope.claimPositional] at h
  split at h
  · cases h
    exact hb
  · cases h
    exact (hb.numbered (by decide) position).claimNumbered (by decide) rfl

/-- A member goes by its raw name or by the label and its position, perhaps numbered. -/
theorem Naming.claimMembers_coined {label : String} {raws : List String} {position : Nat}
    {claims : List Claim} (hl : label ∈ labels) (hr : ∀ raw ∈ raws, Raw raw)
    (h : claimMembers label position s raws = (claims, s')) : ∀ c ∈ claims, Coined Raw c.name := by
  induction raws generalizing position s claims with
  | nil =>
    cases h
    simp
  | cons raw raws ih =>
    obtain ⟨hfirst, hrest⟩ := List.forall_mem_cons.mp hr
    obtain ⟨base, name, renamed, scope₁, rest, rfl, hc, hcs, rfl⟩ := claimMembers_cons h
    have hbase : Coined Raw (valueIdent raw (label ++ toString position)) :=
      .value hfirst (.counted hl position)
    exact List.forall_mem_cons.mpr ⟨hbase.claimPositional hc, ih hrest hcs⟩

end Claims

section Overloads

theorem Elementary.isAsciiWord_text (e : Elementary) : IsAsciiWord e.text := by
  cases e <;> simp [Elementary.text] <;> decide

theorem TypeExpr.isAsciiWord_methodPart (t : TypeExpr) : IsAsciiWord t.methodPart := by
  have hbase : IsAsciiWord t.base.text := by
    cases t.base with
    | elementary e => exact e.isAsciiWord_text
    | tuple => decide
  refine isAsciiWord_append.mpr ⟨hbase, isAsciiWord_join ?_⟩
  intro part hpart
  obtain ⟨d, _, rfl⟩ := List.mem_map.mp hpart
  cases d with
  | none => decide
  | some n => exact isAsciiWord_append.mpr ⟨by decide, by simp⟩

theorem methodParts_ascii {origin : String} {ps : List Parameter} {parts : List String}
    (h : methodParts origin ps = .ok parts) : ∀ part ∈ parts, IsAsciiWord part := by
  induction ps generalizing parts with
  | nil =>
    cases h
    simp
  | cons p ps ih =>
    simp only [methodParts] at h
    split at h
    · cases h
    · rename_i t _
      obtain ⟨rest, hr, rfl⟩ := except_map_ok.mp h
      exact List.forall_mem_cons.mpr ⟨t.isAsciiWord_methodPart, ih hr⟩

theorem overloadSuffix_ascii {d : ResolvedDeclaration} {suffix : String}
    (h : overloadSuffix d = .ok suffix) : IsAsciiWord suffix := by
  simp only [overloadSuffix] at h
  split at h
  · cases h
    decide
  · obtain ⟨parts, hp, rfl⟩ := except_map_ok.mp h
    exact isAsciiWord_intercalate (by decide) (methodParts_ascii hp)

/-- An overload wants its base, or the base with a suffix that may be added to a name. -/
theorem Coined.wantedMethod {Raw : String → Prop} {base wanted : String} {isFirst : Bool}
    {d : ResolvedDeclaration} (hb : Coined Raw base)
    (h : wantedMethod base isFirst d = .ok wanted) : Coined Raw wanted := by
  simp only [AbiBindings.wantedMethod] at h
  split at h
  · cases h
    exact hb
  · obtain ⟨suffix, hs, rfl⟩ := except_map_ok.mp h
    rw [String.append_assoc]
    exact hb.tail (isTail_overload (overloadSuffix_ascii hs))

end Overloads

end AbiBindings
