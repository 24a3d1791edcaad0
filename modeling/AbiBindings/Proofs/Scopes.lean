import AbiBindings.Naming.Claims
import AbiBindings.Proofs.Basic
import Mathlib.Data.List.Nodup

namespace AbiBindings

namespace Scope

variable {s s' s'' : Scope} {base separator name : String}

theorem numbered_injective {i j : Nat}
    (h : numbered base separator i = numbered base separator j) : i = j :=
  labelled_injective h

theorem firstFree_bounds (taken : List String) (candidate : Nat → String) (count k : Nat) :
    k ≤ firstFree taken candidate count k ∧ firstFree taken candidate count k ≤ k + count := by
  induction count generalizing k with
  | zero => simp [firstFree]
  | succ count ih =>
    simp only [firstFree]
    split
    · have := ih (k + 1)
      omega
    · omega

/-- Every candidate passed over was in use. -/
theorem firstFree_least {taken : List String} {candidate : Nat → String} {count k j : Nat}
    (hk : k ≤ j) (hj : j < firstFree taken candidate count k) : candidate j ∈ taken := by
  induction count generalizing k with
  | zero =>
    simp only [firstFree] at hj
    omega
  | succ count ih =>
    simp only [firstFree] at hj
    split at hj
    · rename_i hm
      rcases Nat.eq_or_lt_of_le hk with rfl | hlt
      · exact hm
      · exact ih hlt hj
    · omega

/-- Unless all candidates are in use, the one found is not. -/
theorem firstFree_free {taken : List String} {candidate : Nat → String} {count k : Nat}
    (h : firstFree taken candidate count k < k + count) :
    candidate (firstFree taken candidate count k) ∉ taken := by
  induction count generalizing k with
  | zero =>
    simp only [firstFree] at h
    omega
  | succ count ih =>
    simp only [firstFree] at h ⊢
    split
    · rename_i hm
      simp only [hm, ↓reduceIte] at h
      exact ih (by omega)
    · assumption

/-- Names in use cannot cover more candidates than there are names. -/
theorem covered_le {taken : List String} {candidate : Nat → String} {count k : Nat}
    (hinj : ∀ i j, candidate i = candidate j → i = j)
    (h : ∀ j, k ≤ j → j < k + count → candidate j ∈ taken) : count ≤ taken.length := by
  have hn : ((List.range' k count).map candidate).Nodup :=
    List.Nodup.map (fun i j he => hinj i j he) (List.nodup_range' ..)
  have hsub : (List.range' k count).map candidate ⊆ taken := by
    intro n hm
    obtain ⟨j, hj, rfl⟩ := List.mem_map.mp hm
    have hb := List.mem_range'_1.mp hj
    exact h j hb.1 hb.2
  simpa using hn.length_le_of_subset hsub

/-- One candidate more than there are names in use: one of them is free. -/
theorem firstFree_numbered (taken : List String) (base separator : String) :
    numbered base separator (firstFree taken (numbered base separator) (taken.length + 1) 2)
      ∉ taken := by
  apply firstFree_free
  have hb := firstFree_bounds taken (numbered base separator) (taken.length + 1) 2
  rcases Nat.eq_or_lt_of_le hb.2 with he | hlt
  -- A search that ends at its bound has seen one more name in use than there are.
  · have hc : taken.length + 1 ≤ taken.length :=
      covered_le (fun i j => numbered_injective)
        (fun j hk hj => firstFree_least hk (he ▸ hj))
    omega
  · exact hlt

theorem tryClaim_true (h : s.tryClaim name = (true, s')) :
    name ∉ s.taken ∧ s' = ⟨name :: s.taken⟩ := by
  simp only [tryClaim] at h
  split at h
  · cases h
  · rename_i hn
    cases h
    exact ⟨hn, rfl⟩

theorem tryClaim_false (h : s.tryClaim name = (false, s')) : name ∈ s.taken ∧ s' = s := by
  simp only [tryClaim] at h
  split at h
  · rename_i hm
    cases h
    exact ⟨hm, rfl⟩
  · cases h

/-- The base is taken when free; else the least free number from two on decides. -/
theorem claimNumbered_cases (h : s.claimNumbered base separator = (name, s')) :
    s' = ⟨name :: s.taken⟩ ∧ name ∉ s.taken ∧
      ((base ∉ s.taken ∧ name = base) ∨
        (base ∈ s.taken ∧ ∃ k, 2 ≤ k ∧ name = numbered base separator k ∧
          ∀ j, 2 ≤ j → j < k → numbered base separator j ∈ s.taken)) := by
  simp only [claimNumbered] at h
  split at h
  · rename_i t ht
    obtain ⟨hn, rfl⟩ := tryClaim_true ht
    cases h
    exact ⟨rfl, hn, .inl ⟨hn, rfl⟩⟩
  · rename_i t ht
    obtain ⟨hm, _⟩ := tryClaim_false ht
    cases h
    exact ⟨rfl, firstFree_numbered s.taken base separator, .inr ⟨hm, _,
      (firstFree_bounds _ _ _ _).1, rfl, fun j hk hj => firstFree_least hk hj⟩⟩

/-- The names granted between two states: new ones, each once, and nothing else. -/
structure Grants (s : Scope) (names : List String) (s' : Scope) : Prop where
  nodup : names.Nodup
  fresh : ∀ n ∈ names, n ∉ s.taken
  taken : s'.taken.Perm (names ++ s.taken)

namespace Grants

variable {names names' : List String}

theorem none (s : Scope) : s.Grants [] s := ⟨.nil, by simp, .refl _⟩

theorem one (h : name ∉ s.taken) : s.Grants [name] ⟨name :: s.taken⟩ :=
  ⟨by simp, by simpa using h, .refl _⟩

theorem append (h : s.Grants names s') (h' : s'.Grants names' s'') :
    s.Grants (names ++ names') s'' := by
  have hmem : ∀ n, n ∈ s'.taken ↔ n ∈ names ++ s.taken := fun n => h.taken.mem_iff
  refine ⟨?_, ?_, ?_⟩
  · refine List.nodup_append.mpr ⟨h.nodup, h'.nodup, ?_⟩
    rintro a ha b hb rfl
    exact h'.fresh a hb ((hmem a).mpr (List.mem_append_left _ ha))
  · intro n hn
    rcases List.mem_append.mp hn with hn | hn
    · exact h.fresh n hn
    · intro ht
      exact h'.fresh n hn ((hmem n).mpr (List.mem_append_right _ ht))
  · calc
      s''.taken.Perm (names' ++ s'.taken) := h'.taken
      _ |>.Perm (names' ++ (names ++ s.taken)) := h.taken.append_left names'
      _ |>.Perm (names ++ names' ++ s.taken) := by
        rw [← List.append_assoc]
        exact List.perm_append_comm.append_right _

theorem perm (h : s.Grants names s') (hp : names.Perm names') : s.Grants names' s' :=
  ⟨hp.nodup_iff.mp h.nodup, fun n hn => h.fresh n (hp.mem_iff.mpr hn),
    h.taken.trans (hp.append_right _)⟩

end Grants

/-- Whatever was in use, one new name is taken. -/
theorem claimNumbered_grants (h : s.claimNumbered base separator = (name, s')) :
    s.Grants [name] s' := by
  obtain ⟨rfl, hn, _⟩ := claimNumbered_cases h
  exact .one hn

theorem claimPositional_grants {position : Nat} {renamed : Bool}
    (h : s.claimPositional base position = ((name, renamed), s')) : s.Grants [name] s' := by
  simp only [claimPositional] at h
  split at h
  · rename_i t ht
    obtain ⟨hn, rfl⟩ := tryClaim_true ht
    cases h
    exact .one hn
  · cases h
    exact claimNumbered_grants rfl

end Scope

namespace Naming

/-- The first member is granted its name before the others. -/
theorem claimMembers_cons {label raw : String} {raws : List String} {position : Nat}
    {scope scope' : Scope} {claims : List Claim}
    (h : claimMembers label position scope (raw :: raws) = (claims, scope')) :
    ∃ base name renamed scope₁ rest,
      base = valueIdent raw (label ++ toString position) ∧
      scope.claimPositional base position = ((name, renamed), scope₁) ∧
      claimMembers label (position + 1) scope₁ raws = (rest, scope') ∧
      claims = ⟨base, name, renamed⟩ :: rest := by
  simp only [claimMembers, Prod.mk.injEq] at h
  exact ⟨_, _, _, _, _, rfl, rfl, Prod.ext rfl h.2, h.1.symm⟩

/-- Members of one owner get distinct names. -/
theorem claimMembers_grants {label : String} {raws : List String} {position : Nat}
    {scope scope' : Scope} {claims : List Claim}
    (h : claimMembers label position scope raws = (claims, scope')) :
    scope.Grants (claims.map (·.name)) scope' := by
  induction raws generalizing position scope claims with
  | nil =>
    cases h
    exact .none _
  | cons raw raws ih =>
    obtain ⟨_, _, _, _, _, _, hc, hr, rfl⟩ := claimMembers_cons h
    exact (Scope.claimPositional_grants hc).append (ih hr)

theorem length_claimMembers {label : String} {raws : List String} {position : Nat}
    {scope scope' : Scope} {claims : List Claim}
    (h : claimMembers label position scope raws = (claims, scope')) :
    claims.length = raws.length := by
  induction raws generalizing position scope claims with
  | nil =>
    cases h
    rfl
  | cons raw raws ih =>
    obtain ⟨_, _, _, _, _, _, _, hr, rfl⟩ := claimMembers_cons h
    simp [ih hr]

theorem names_zip {α : Type} {claims : List Claim} {xs : List α}
    (h : claims.length = xs.length) :
    ((claims.zip xs).map fun x => x.1.name) = claims.map (·.name) :=
  map_of_map (List.map_fst_zip (Nat.le_of_eq h)) (·.name)

end Naming

end AbiBindings
