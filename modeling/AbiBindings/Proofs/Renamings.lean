import AbiBindings.Proofs.Records
import AbiBindings.Proofs.Structs
import Mathlib.Data.List.Zip

namespace AbiBindings

/-- What is said of members, given as raw names with the names they go by: each that does not go by
the identifier its raw name gives is reported, with both. -/
def renameReports (owner label : String) (position : Nat) (members : List (String × String)) :
    List Diagnostic :=
  (members.zipIdx position).filterMap fun ((raw, name), i) =>
    let base := Naming.valueIdent raw (label ++ toString i)
    if name = base then none else some (.duplicateField owner base name)

section Claims

theorem append_ne_self {a b : String} (hb : b ≠ "") : a ++ b ≠ a := by
  intro h
  apply hb
  simpa using h

namespace Scope

variable {s s' : Scope} {base separator name : String}

/-- What is granted begins with what was asked for. -/
theorem claimNumbered_extends (h : s.claimNumbered base separator = (name, s')) :
    ∃ rest, name = base ++ rest := by
  obtain ⟨_, _, ⟨_, rfl⟩ | ⟨_, k, _, rfl, _⟩⟩ := claimNumbered_cases h
  · exact ⟨"", by simp⟩
  · exact ⟨separator ++ toString k, by rw [numbered, String.append_assoc]⟩

/-- A member is flagged just when it does not get its base. -/
theorem claimPositional_renamed {position : Nat} {renamed : Bool}
    (h : s.claimPositional base position = ((name, renamed), s')) :
    renamed = true ↔ name ≠ base := by
  simp only [claimPositional] at h
  split at h
  · cases h
    simp
  · obtain ⟨⟨granted, t⟩, hc⟩ :
      ∃ p, s.claimNumbered (base ++ "_" ++ toString position) "_" = p := ⟨_, rfl⟩
    obtain ⟨rest, rfl⟩ := claimNumbered_extends hc
    rw [hc] at h
    cases h
    have hlonger : base ++ "_" ++ toString position ++ rest ≠ base := by
      rw [String.append_assoc, String.append_assoc]
      apply append_ne_self
      simp
    exact ⟨fun _ => hlonger, fun _ => rfl⟩

end Scope

/-- The flags set while claiming are the differences between bases and names. -/
theorem Naming.renamings_eq_reports {owner label : String} {raws : List String} {position : Nat}
    {scope scope' : Scope} {claims : List Claim}
    (h : claimMembers label position scope raws = (claims, scope')) :
    renamings owner claims =
      renameReports owner label position (raws.zip (claims.map (·.name))) := by
  induction raws generalizing position scope claims with
  | nil =>
    cases h
    rfl
  | cons raw raws ih =>
    obtain ⟨base, name, renamed, scope₁, rest, rfl, hc, hr, rfl⟩ := claimMembers_cons h
    have hflag := Scope.claimPositional_renamed hc
    have hrest := ih hr
    simp only [renamings, renameReports] at hrest
    simp only [renamings, renameReports, List.map_cons, List.zip_cons_cons, List.zipIdx_cons,
      List.filterMap_cons, List.filter_cons]
    by_cases hn : name = valueIdent raw (label ++ toString position)
    · have hkept : ¬ renamed = true := fun h => hflag.mp h hn
      rw [if_neg hkept, if_pos hn]
      exact hrest
    · rw [if_pos (hflag.mpr hn), if_neg hn, List.map_cons, hrest]

end Claims

section Arguments

variable {d : ResolvedDeclaration}

def Declaration.argumentReports (d : Declaration) (names : List String) : List Diagnostic :=
  renameReports d.describe "param" 0 ((d.inputs.map (·.name)).zip names)

def ResolvedDeclaration.argumentReports (d : ResolvedDeclaration) : List Diagnostic :=
  renameReports d.origin "param" 0
    ((d.declaration.inputs.map (·.name)).zip (claimedNames "param" d.declaration.inputs))

theorem nameArguments_reports (d : ResolvedDeclaration) :
    (nameArguments d.origin d.declaration.inputs d.inputs).2.1 = d.argumentReports :=
  Naming.renamings_eq_reports rfl

theorem bindFunction_reports (d : ResolvedDeclaration) (method : String) :
    (bindFunction d method).2 = d.argumentReports :=
  nameArguments_reports d

theorem eventFields_reports (d : ResolvedDeclaration) : (eventFields d).2 = d.argumentReports :=
  Naming.renamings_eq_reports rfl

theorem bindEvents_reports (types methods : Scope) (ds : List ResolvedDeclaration) :
    (bindEvents types methods ds).2.1 = ds.flatMap (·.argumentReports) := by
  induction ds generalizing types methods with
  | nil => rfl
  | cons d ds ih => simp only [bindEvents, ih, eventFields_reports, List.flatMap_cons]

theorem bindErrors_reports (types : Scope) (ds : List ResolvedDeclaration) :
    (bindErrors types ds).2.1 = ds.flatMap (·.argumentReports) := by
  induction ds generalizing types with
  | nil => rfl
  | cons d ds ih => simp only [bindErrors, ih, nameArguments_reports, List.flatMap_cons]

/-- Deployment reports what the constructor's arguments give rise to, and nothing without one. -/
theorem bindDeploy_reports (ds : List ResolvedDeclaration) (bytecode : String) :
    (bindDeploy ds bytecode).2 =
      ((ds.find? fun d => d.declaration.kind = .constructor).map (·.argumentReports)).getD [] := by
  unfold bindDeploy
  cases ds.find? fun d => d.declaration.kind = .constructor with
  | none => rfl
  | some d => exact nameArguments_reports d

end Arguments

section Fields

def StructDefinition.fieldReports (d : StructDefinition) : List Diagnostic :=
  renameReports ("struct `" ++ d.name ++ "`") "field" 0 (d.fields.map fun f => (f.abiName, f.name))

variable {shape : Shape} {id : StructId} {name : String} {d : StructDefinition}
variable {ds : List Diagnostic}

theorem Shape.define_reports (h : shape.define id name = (d, ds)) : ds = d.fieldReports := by
  simp only [define, Prod.mk.injEq] at h
  obtain ⟨rfl, rfl⟩ := h
  rw [Naming.renamings_eq_reports (Prod.eta _).symm, StructDefinition.fieldReports]
  simp only [List.map_map, Function.comp_def]
  rw [← List.zip_swap, List.zip_map, List.map_map]
  rfl

theorem defineAll_reports {pairs : List (Shape × String)} {structs : List StructDefinition}
    (h : defineAll id pairs = (structs, ds)) : ds = structs.flatMap (·.fieldReports) := by
  induction pairs generalizing id structs ds with
  | nil =>
    cases h
    rfl
  | cons pair pairs ih =>
    obtain ⟨shape, name⟩ := pair
    simp only [defineAll, Prod.mk.injEq] at h
    obtain ⟨rfl, rfl⟩ := h
    rw [List.flatMap_cons, ← Shape.define_reports (Prod.eta _).symm, ← ih (Prod.eta _).symm]

end Fields

end AbiBindings
