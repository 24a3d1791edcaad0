import AbiBindings.Proofs.Acceptance

namespace AbiBindings

def NoRepeats (ds : List Declaration) : Prop := ds.Pairwise fun d d' => ¬ d.SameAs d'

instance (ds : List Declaration) : Decidable (NoRepeats ds) :=
  inferInstanceAs (Decidable (List.Pairwise _ ds))

section Compiling

variable {options : Options} {contractName : String} {modulePath : ModulePath}
variable {ds : List Declaration} {bytecode : Option String}

/-- In either mode, bindings come about just when the declarations are acceptable and those that are
kept hold no integer that the mode cannot. -/
theorem compileDeclarations_ok_iff :
    (∃ b, (compileDeclarations options contractName modulePath ds bytecode).result = .ok b) ↔
      Acceptable ds ∧ declaredLosses options.representation (keptDeclarations ds) = [] := by
  constructor
  · rintro ⟨b, hb⟩
    obtain ⟨rs, g, hc⟩ := compileDeclarations_ok hb
    have hlost := (lost_resolveDeclarations Gathered.lost_empty hc.resolved).losses
    rw [hc.lossless, resolveDeclarations_keeps SeenIn.nil hc.resolved, List.nil_append] at hlost
    refine ⟨resolveDeclarations_ok_iff.mp ⟨_, hc.resolved⟩, ?_⟩
    refine List.eq_nil_iff_forall_not_mem.mpr fun text ht => ?_
    rw [← List.mem_eraseDups, keptDeclarations, ← hlost] at ht
    cases ht
  · rintro ⟨ha, hnone⟩
    obtain ⟨rs, g, hr⟩ := ha.resolves options.representation
    have hlossless : g.losses = [] := by
      rw [(lost_resolveDeclarations Gathered.lost_empty hr).losses,
        resolveDeclarations_keeps SeenIn.nil hr, List.nil_append]
      exact congrArg List.eraseDups hnone
    rw [compileDeclarations_resolved hr, Gathered.checkPrecision_of_lossless hlossless]
    exact buildBindings_ok (overloads_readable hr)

end Compiling

section Reordering

variable {before ds ds' : List Declaration} {d d' : Declaration}

theorem Declaration.sharesSignature_comm : d.sharesSignature d' = d'.sharesSignature d := by
  unfold sharesSignature
  cases signature d.nameOrKind d.inputs d.describe <;>
    cases signature d'.nameOrKind d'.inputs d'.describe <;> simp [eq_comm]

theorem Declaration.SameAs.symm (h : d.SameAs d') : d'.SameAs d := by
  obtain ⟨hkind, hsig⟩ := h
  refine ⟨hkind.symm, fun hn => ?_⟩
  rw [sharesSignature_comm]
  exact hsig (hkind ▸ hn)

theorem NoRepeats.perm (h : NoRepeats ds) (hp : ds.Perm ds') : NoRepeats ds' :=
  List.Pairwise.perm h hp fun hne hs => hne hs.symm

/-- What repeats nothing is kept. -/
theorem NoRepeats.keptAfter_eq (h : NoRepeats ds) (hb : ∀ d ∈ ds, ¬ d.Repeats before) :
    keptAfter before ds = ds := by
  induction ds generalizing before with
  | nil => rfl
  | cons d ds ih =>
    obtain ⟨hd, hds⟩ := List.pairwise_cons.mp h
    obtain ⟨hnew, hrest⟩ := List.forall_mem_cons.mp hb
    rw [keptAfter, if_neg hnew, ih hds]
    intro d' hd' hrep
    rcases Declaration.repeats_concat.mp hrep with hrep | hs
    · exact hrest d' hd' hrep
    · exact hd d' hd' hs

theorem NoRepeats.kept_eq (h : NoRepeats ds) : keptDeclarations ds = ds :=
  h.keptAfter_eq fun d _ => by simp [Declaration.Repeats]

theorem NoRepeats.acceptable_perm (h : NoRepeats ds) (hp : ds.Perm ds') (ha : Acceptable ds) :
    Acceptable ds' := by
  obtain ⟨hinputs, hkept⟩ := ha
  rw [h.kept_eq] at hkept
  refine ⟨fun d hd => hinputs d (hp.mem_iff.mpr hd), ?_⟩
  rw [(h.perm hp).kept_eq]
  exact fun d hd => hkept d (hp.mem_iff.mpr hd)

/-- Whether bindings come about does not depend on the order of declarations that do not repeat each
other. -/
theorem NoRepeats.compiles_perm {options : Options} {contractName : String}
    {modulePath : ModulePath} {bytecode : Option String} (h : NoRepeats ds) (hp : ds.Perm ds')
    (hb : ∃ b, (compileDeclarations options contractName modulePath ds bytecode).result = .ok b) :
    ∃ b, (compileDeclarations options contractName modulePath ds' bytecode).result = .ok b := by
  obtain ⟨ha, hnone⟩ := compileDeclarations_ok_iff.mp hb
  rw [h.kept_eq] at hnone
  refine compileDeclarations_ok_iff.mpr ⟨h.acceptable_perm hp ha, ?_⟩
  have hlosses : (declaredLosses options.representation ds).Perm
      (declaredLosses options.representation ds') := hp.flatMap_right _
  rw [(h.perm hp).kept_eq]
  exact (hnone ▸ hlosses).nil_eq.symm

end Reordering

end AbiBindings
