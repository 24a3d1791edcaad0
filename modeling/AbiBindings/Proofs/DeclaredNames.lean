import AbiBindings.Proofs.KeptDeclarations
import AbiBindings.Proofs.Quoting

namespace AbiBindings

/-- Neither the name of the contract nor a name that its interface declares breaks a line. -/
structure Source.OneLineNames (source : Source) : Prop where
  contract : Unbroken source.name
  declared : ∀ interface, Interface.parse source.interface = .ok interface →
    ∀ d ∈ interface.declarations, ∀ name ∈ d.name, Unbroken name

theorem Declaration.unbroken_nameOrKind {d : Declaration} (h : ∀ name ∈ d.name, Unbroken name) :
    Unbroken d.nameOrKind := by
  unfold nameOrKind
  split
  · rename_i name hname
    exact h name hname
  · split <;> exact unbroken_ofList (by decide)

variable {b : ContractBindings} {mode : Representation} {ds : List Declaration}
variable {bytecode : Option String} {rs : List ResolvedDeclaration} {g : Gathered}

/-- The names quoted in bindings are those of the declarations that were kept. -/
theorem ContractBindings.Compiled.rawNames_unbroken (h : b.Compiled mode ds bytecode rs g)
    (hc : Unbroken b.contractName) (hd : ∀ d ∈ ds, ∀ name ∈ d.name, Unbroken name) :
    ∀ name ∈ b.rawNames, Unbroken name := by
  have hname : ∀ r ∈ rs, Unbroken r.declaration.nameOrKind := fun r hr =>
    Declaration.unbroken_nameOrKind (hd _ (resolveDeclarations_mem h.resolved hr))
  refine ContractBindings.forall_rawNames.mpr ⟨hc, fun f hf => ?_, fun e he => ?_, fun e he => ?_,
    fun helper hh signature hs => ?_⟩
  · obtain ⟨r, hr, _, hb⟩ := h.function hf
    exact hb.abiName ▸ hname r hr
  · obtain ⟨r, hr, _, hb⟩ := h.event he
    exact hb.abiName ▸ hname r hr
  · obtain ⟨r, hr, _, hb⟩ := h.error he
    exact hb.abiName ▸ hname r hr
  · rcases h.deploy hh with ⟨_, hnone, _⟩ | ⟨r, hr, _, hb⟩
    · cases hnone.symm.trans hs
    · obtain rfl := Option.some.inj (hb.signature.symm.trans hs)
      exact (unbroken_signature_iff (h.sound r hr).signature).mpr (hname r hr)

theorem compileDeclarations_contractName {options : Options} {contractName : String}
    {modulePath : ModulePath}
    (h : (compileDeclarations options contractName modulePath ds bytecode).result = .ok b) :
    b.contractName = contractName := by
  simp only [compileDeclarations] at h
  split at h
  · cases h
  · split at h
    · cases h
    · simp only [buildBindings] at h
      split at h
      · cases h
      · cases h
        rfl

/-- No name that is quoted breaks a line unless the source gives one that does. -/
theorem rawNames_unbroken {options : Options} {source : Source}
    (h : (compile options source).result = .ok b) (hs : source.OneLineNames) :
    ∀ name ∈ b.rawNames, Unbroken name := by
  simp only [compile] at h
  split at h
  · cases h
  · split at h
    · cases h
    · rename_i interface hparse
      obtain ⟨rs, g, hc⟩ := compileDeclarations_ok h
      refine hc.rawNames_unbroken ?_ (hs.declared interface hparse)
      exact compileDeclarations_contractName h ▸ hs.contract

end AbiBindings
