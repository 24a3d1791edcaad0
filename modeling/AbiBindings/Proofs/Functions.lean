import AbiBindings.Bindings.Functions
import AbiBindings.Proofs.Declarations
import AbiBindings.Proofs.Scopes

namespace AbiBindings

section Arguments

variable {origin : String} {params : List Parameter} {types : List Resolved}
variable {inputs : List BindingParam} {ds : List Diagnostic} {scope : Scope}

theorem pairMembers_types {claims : List Naming.Claim} (h : claims.length = types.length) :
    (pairMembers claims types).map (·.type) = types := by
  have hs := List.map_snd_zip (Nat.le_of_eq h.symm)
  simpa [pairMembers, Function.comp_def] using hs

theorem pairMembers_names {claims : List Naming.Claim} (h : claims.length = types.length) :
    (pairMembers claims types).map (·.name) = claims.map (·.name) := by
  simpa [pairMembers, Function.comp_def] using Naming.names_zip h

def claimedNames (label : String) (params : List Parameter) : List String :=
  (Naming.claimMembers label 0 .empty (params.map (·.name))).1.map (·.name)

theorem length_claimedNames (label : String) (params : List Parameter) :
    (claimedNames label params).length = params.length := by
  rw [claimedNames, List.length_map, Naming.length_claimMembers rfl, List.length_map]

/-- Arguments keep their types and get different names. -/
theorem nameArguments_spec (hlen : types.length = params.length)
    (h : nameArguments origin params types = (inputs, ds, scope)) :
    inputs.map (·.type) = types ∧ Scope.empty.Grants (inputs.map (·.name)) scope := by
  obtain ⟨⟨claims, scope₁⟩, hc⟩ :
    ∃ p, Naming.claimMembers "param" 0 .empty (params.map (·.name)) = p := ⟨_, rfl⟩
  simp only [nameArguments, hc, Prod.mk.injEq] at h
  obtain ⟨rfl, _, rfl⟩ := h
  have hl : claims.length = types.length := by simpa [hlen] using Naming.length_claimMembers hc
  rw [pairMembers_types hl, pairMembers_names hl]
  exact ⟨rfl, Naming.claimMembers_grants hc⟩

/-- Members have the names granted to their parameters. -/
theorem pairMembers_claimed (label : String) (hlen : types.length = params.length) :
    (pairMembers (Naming.claimMembers label 0 .empty (params.map (·.name))).1 types).map (·.name) =
      claimedNames label params := by
  have hl := length_claimedNames label params
  rw [claimedNames, List.length_map] at hl
  exact pairMembers_names (hl.trans hlen.symm)

/-- Results keep their types and get different names. -/
theorem nameResults_spec (hlen : types.length = params.length) :
    (nameResults params types).map (·.type) = types ∧
      ((nameResults params types).map (·.name)).Nodup := by
  obtain ⟨⟨claims, scope⟩, hc⟩ :
    ∃ p, Naming.claimMembers "value" 0 .empty (params.map (·.name)) = p := ⟨_, rfl⟩
  have hl : claims.length = types.length := by simpa [hlen] using Naming.length_claimMembers hc
  simp only [nameResults, hc]
  rw [pairMembers_types hl, pairMembers_names hl]
  exact ⟨rfl, (Naming.claimMembers_grants hc).nodup⟩

/-- The argument for the value is named apart from all names in use. -/
theorem valueArgument_grants (m : Mutability) (scope : Scope) :
    ∃ scope', scope.Grants (valueArgument m scope).toList scope' := by
  unfold valueArgument
  cases m.isPayable with
  | false => exact ⟨scope, .none scope⟩
  | true => exact ⟨_, Scope.claimNumbered_grants rfl⟩

end Arguments

section Methods

variable {base : String} {isFirst : Bool} {scope scope' : Scope} {d : ResolvedDeclaration}
variable {ds : List ResolvedDeclaration} {claimed : List (ResolvedDeclaration × String)}

/-- The first overload takes a method before the later ones do. -/
theorem claimMethods_cons (h : claimMethods base isFirst scope (d :: ds) = .ok (claimed, scope')) :
    ∃ wanted method scope₁ rest, wantedMethod base isFirst d = .ok wanted ∧
      scope.claimNumbered wanted "_" = (method, scope₁) ∧
      claimMethods base false scope₁ ds = .ok (rest, scope') ∧ claimed = (d, method) :: rest := by
  simp only [claimMethods] at h
  split at h
  · cases h
  · rename_i wanted hw
    obtain ⟨⟨rest, scope₂⟩, hr, he⟩ := except_map_ok.mp h
    cases he
    exact ⟨wanted, _, _, rest, hw, rfl, hr, rfl⟩

/-- Every overload gets a method, and the methods are new and differ. -/
theorem claimMethods_spec (h : claimMethods base isFirst scope ds = .ok (claimed, scope')) :
    claimed.map (·.1) = ds ∧ scope.Grants (claimed.map (·.2)) scope' := by
  induction ds generalizing isFirst scope claimed with
  | nil =>
    cases h
    exact ⟨rfl, .none _⟩
  | cons d ds ih =>
    obtain ⟨_, _, _, _, _, hc, hr, rfl⟩ := claimMethods_cons h
    obtain ⟨hd, hg⟩ := ih hr
    exact ⟨by rw [List.map_cons, hd], (Scope.claimNumbered_grants hc).append hg⟩

/-- Functions of one name take their methods before those of the next. -/
theorem claimGroups_cons {name : String} {groups : List (String × List ResolvedDeclaration)}
    (h : claimGroups scope ((name, ds) :: groups) = .ok (claimed, scope')) :
    ∃ methods scope₁ rest,
      claimMethods (Naming.valueIdent name "function") true scope ds = .ok (methods, scope₁) ∧
      claimGroups scope₁ groups = .ok (rest, scope') ∧ claimed = methods ++ rest := by
  simp only [claimGroups] at h
  split at h
  · cases h
  · rename_i methods scope₁ hm
    obtain ⟨⟨rest, scope₂⟩, hr, he⟩ := except_map_ok.mp h
    cases he
    exact ⟨methods, scope₁, rest, hm, hr, rfl⟩

/-- Every function of every group gets one method, in order, and no two get the same. -/
theorem claimGroups_spec {groups : List (String × List ResolvedDeclaration)}
    (h : claimGroups scope groups = .ok (claimed, scope')) :
    claimed.map (·.1) = groups.flatMap (·.2) ∧ scope.Grants (claimed.map (·.2)) scope' := by
  induction groups generalizing scope claimed with
  | nil =>
    cases h
    exact ⟨rfl, .none _⟩
  | cons group groups ih =>
    obtain ⟨_, _, _, hm, hr, rfl⟩ := claimGroups_cons h
    obtain ⟨hd, hg⟩ := claimMethods_spec hm
    obtain ⟨hd', hg'⟩ := ih hr
    rw [List.map_append, List.map_append, hd, hd']
    exact ⟨rfl, hg.append hg'⟩

theorem mem_overloads (h : d ∈ (overloads ds).flatMap (·.2)) :
    d ∈ ds ∧ d.declaration.kind = .function := by
  obtain ⟨group, hg, hd⟩ := List.mem_flatMap.mp h
  obtain ⟨name, _, rfl⟩ := List.mem_map.mp hg
  have hf := (List.mem_filter.mp hd).1
  simpa using List.mem_filter.mp hf

end Methods

namespace FunctionBinding

/-- What of a function does not depend on how its methods and its encoder are called. -/
def face (f : FunctionBinding) : FunctionBinding :=
  { f with encoder := "", call := none, transaction := none }

theorem eq_of_face {f f' : FunctionBinding} (h : f'.face = f.face) :
    f' = { f with encoder := f'.encoder, call := f'.call, transaction := f'.transaction } := by
  cases f
  cases f'
  simp only [face, mk.injEq] at h ⊢
  tauto

def ways (f : FunctionBinding) : Bool × Bool := (f.call.isSome, f.transaction.isSome)

end FunctionBinding

/-- The ways of calling a function that its mutability asks for, or both. -/
def ResolvedDeclaration.ways (r : ResolvedDeclaration) (both : Bool) : Bool × Bool :=
  (r.declaration.mutability.isReadOnly || both, !r.declaration.mutability.isReadOnly || both)

section Bindings

variable {methods methods' : Scope} {fs fs' : List FunctionBinding}

theorem bindFunction_methodNames (d : ResolvedDeclaration) (method : String) :
    (bindFunction d method).1.methodNames = [method] := by
  simp only [bindFunction, FunctionBinding.methodNames]
  cases d.declaration.mutability.isReadOnly <;> rfl

theorem bindFunction_ways (d : ResolvedDeclaration) (method : String) :
    (bindFunction d method).1.ways = d.ways false := by
  simp only [bindFunction, FunctionBinding.ways, ResolvedDeclaration.ways]
  cases d.declaration.mutability.isReadOnly <;> rfl

/-- The inputs and outputs of a function have the types of its declaration and distinct names. -/
theorem bindFunction_spec {mode : Representation} {keys : List ShapeKey} {d : ResolvedDeclaration}
    (hd : d.Sound mode keys) (hk : d.declaration.kind = .function) (method : String) :
    (bindFunction d method).1.inputs.map (·.type) = d.inputs ∧
      (bindFunction d method).1.outputs.map (·.type) = d.outputs ∧
      ((bindFunction d method).1.inputs.map (·.name) ++
        (bindFunction d method).1.valueParam.toList).Nodup ∧
      ((bindFunction d method).1.outputs.map (·.name)).Nodup := by
  obtain ⟨⟨inputs, ds, scope⟩, hn⟩ :
    ∃ p, nameArguments d.origin d.declaration.inputs d.inputs = p := ⟨_, rfl⟩
  have ho : d.outputs.length = d.declaration.outputs.length := by
    simpa [Declaration.results, hk] using hd.outputs.length
  obtain ⟨ht, hg⟩ := nameArguments_spec hd.inputs.length hn
  obtain ⟨_, hv⟩ := valueArgument_grants d.declaration.mutability scope
  obtain ⟨hot, hon⟩ := nameResults_spec ho
  simp only [bindFunction, hn]
  exact ⟨ht, hot, (hg.append hv).nodup, hon⟩

/-- A function gains the way of calling it lacks, under a new name after its method's, and nothing
else. -/
theorem addAlternates_cons {f : FunctionBinding}
    (h : addAlternates methods (f :: fs) = (fs', methods')) :
    ∃ f' methods₁ rest, f'.face = f.face ∧ (f.methodNames ≠ [] → f'.ways = (true, true)) ∧
      (∃ names, methods.Grants names methods₁ ∧ (f.methodNames ++ names).Perm f'.methodNames ∧
        ∀ name ∈ names, ∃ start ∈ ["send_", "call_"], ∃ method ∈ f.methodNames,
          methods.claimNumbered (start ++ method) "_" = (name, methods₁)) ∧
      addAlternates methods₁ fs = (rest, methods') ∧ fs' = f' :: rest := by
  cases hc : f.call with
  | some call =>
    cases ht : f.transaction with
    | some transaction =>
      simp only [addAlternates, hc, ht, Prod.mk.injEq] at h
      refine ⟨f, methods, _, rfl, ?_, ⟨[], .none _, by simp⟩, Prod.ext rfl h.2, h.1.symm⟩
      simp [FunctionBinding.ways, hc, ht]
    | none =>
      obtain ⟨⟨name, methods₁⟩, hn⟩ :
        ∃ p, methods.claimNumbered ("send_" ++ call) "_" = p := ⟨_, rfl⟩
      simp only [addAlternates, hc, ht, hn, Prod.mk.injEq] at h
      refine ⟨{ f with transaction := some name }, methods₁, _, rfl, ?_, ⟨[name],
        Scope.claimNumbered_grants hn, ?_, ?_⟩, Prod.ext rfl h.2, by rw [← h.1, hc]⟩
      · simp [FunctionBinding.ways, hc]
      · simp [FunctionBinding.methodNames, hc, ht]
      · simp [FunctionBinding.methodNames, hc, ht, hn]
  | none =>
    cases ht : f.transaction with
    | some transaction =>
      obtain ⟨⟨name, methods₁⟩, hn⟩ :
        ∃ p, methods.claimNumbered ("call_" ++ transaction) "_" = p := ⟨_, rfl⟩
      simp only [addAlternates, hc, ht, hn, Prod.mk.injEq] at h
      refine ⟨{ f with call := some name }, methods₁, _, rfl, ?_, ⟨[name],
        Scope.claimNumbered_grants hn, ?_, ?_⟩, Prod.ext rfl h.2, by rw [← h.1, ht]⟩
      · simp [FunctionBinding.ways, ht]
      · simpa [FunctionBinding.methodNames, hc, ht] using List.Perm.swap _ _ _
      · simp [FunctionBinding.methodNames, hc, ht, hn]
    | none =>
      simp only [addAlternates, hc, ht, Prod.mk.injEq] at h
      refine ⟨f, methods, _, rfl, ?_, ⟨[], .none _, by simp⟩, Prod.ext rfl h.2, h.1.symm⟩
      simp [FunctionBinding.methodNames, hc, ht]

/-- Adding the other way of calling keeps everything else, and takes new names only. -/
theorem addAlternates_spec (h : addAlternates methods fs = (fs', methods')) :
    fs'.map (·.face) = fs.map (·.face) ∧
      ((∀ f ∈ fs, f.methodNames ≠ []) → fs'.map (·.ways) = fs.map fun _ => (true, true)) ∧
      ∃ names, methods.Grants names methods' ∧
        (fs.flatMap (·.methodNames) ++ names).Perm (fs'.flatMap (·.methodNames)) := by
  induction fs generalizing methods fs' with
  | nil =>
    cases h
    exact ⟨rfl, fun _ => rfl, [], .none _, .refl _⟩
  | cons f fs ih =>
    obtain ⟨f', methods₁, rest, hface, hways, ⟨names, hg, hp, _⟩, hr, rfl⟩ := addAlternates_cons h
    obtain ⟨hf, hw, names', hg', hp'⟩ := ih hr
    refine ⟨by rw [List.map_cons, List.map_cons, hface, hf], ?_, names ++ names',
      hg.append hg', ?_⟩
    · intro hall
      obtain ⟨hhead, htail⟩ := List.forall_mem_cons.mp hall
      rw [List.map_cons, List.map_cons, hways hhead, hw htail]
    · simp only [List.flatMap_cons]
      calc
        (f.methodNames ++ fs.flatMap (·.methodNames) ++ (names ++ names')).Perm
          (f.methodNames ++ (names ++ (fs.flatMap (·.methodNames) ++ names'))) := by
            simp only [List.append_assoc]
            exact List.Perm.append_left _ (List.perm_append_comm_assoc ..)
        _ |>.Perm (f.methodNames ++ names ++ (fs.flatMap (·.methodNames) ++ names')) := by
            rw [List.append_assoc]
        _ |>.Perm (f'.methodNames ++ rest.flatMap (·.methodNames)) := hp.append hp'

/-- Naming the encoders keeps everything else, and takes new names only. -/
theorem nameEncoders_spec {pairs : List (FunctionBinding × String)}
    (h : nameEncoders methods pairs = (fs, methods')) :
    fs.map (·.face) = pairs.map (·.1.face) ∧
      fs.map (·.methodNames) = pairs.map (·.1.methodNames) ∧
      fs.map (·.ways) = pairs.map (·.1.ways) ∧ methods.Grants (fs.map (·.encoder)) methods' := by
  induction pairs generalizing methods fs with
  | nil =>
    cases h
    exact ⟨rfl, rfl, rfl, .none _⟩
  | cons pair pairs ih =>
    obtain ⟨f, primary⟩ := pair
    obtain ⟨⟨encoder, methods₁⟩, hc⟩ :
      ∃ p, methods.claimNumbered ("encode_" ++ primary) "_" = p := ⟨_, rfl⟩
    obtain ⟨⟨rest, methods₂⟩, hr⟩ : ∃ p, nameEncoders methods₁ pairs = p := ⟨_, rfl⟩
    simp only [nameEncoders, hc, hr, Prod.mk.injEq] at h
    obtain ⟨rfl, rfl⟩ := h
    obtain ⟨hf, hm, hw, hg⟩ := ih hr
    refine ⟨?_, ?_, ?_, (Scope.claimNumbered_grants hc).append hg⟩
    · rw [List.map_cons, List.map_cons, hf]
      rfl
    · rw [List.map_cons, List.map_cons, hm]
      rfl
    · rw [List.map_cons, List.map_cons, hw]
      rfl

end Bindings

end AbiBindings
