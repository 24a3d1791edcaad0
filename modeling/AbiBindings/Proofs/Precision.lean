import AbiBindings.Proofs.Acceptance

namespace AbiBindings

def Elementary.isWide : Elementary → Bool
  | .uint bits | .int bits => 128 < bits
  | _ => false

theorem NativeInt.forWidth_isNone (bits : Nat) (signed : Bool) :
    (forWidth bits signed).isNone = decide (128 < bits) := by
  simp only [forWidth]
  split_ifs <;> simp only [Option.isNone_some, Option.isNone_none] <;>
    simp only [Bool.false_eq, Bool.true_eq, decide_eq_false_iff_not, decide_eq_true_eq] <;> omega

/-- Wide integers are all that the native mode has no counterpart for. -/
theorem native_target_isNone (e : Elementary) :
    (Representation.native.target e).isNone = e.isWide := by
  cases e with
  | uint bits | int bits =>
    simp [Representation.target, Representation.integer, NativeInt.forWidth_isNone,
      Elementary.isWide]
  | _ => rfl

/-- A type without parts that a parameter has, or a part of it at any depth. -/
inductive Parameter.Holds (t : PlainType) : Parameter → Prop
  | here {p : Parameter} (h : TypeExpr.parse p.typeText = .ok ⟨.elementary t.1, t.2⟩) : Holds t p
  | part {p q : Parameter} {dims : List (Option Nat)}
    (h : TypeExpr.parse p.typeText = .ok ⟨.tuple, dims⟩) (hq : q ∈ p.components)
    (hold : Holds t q) : Holds t p

section Holding

variable {t : PlainType}

theorem mem_plainTypesOf {ps : List Parameter} :
    t ∈ Parameter.plainTypesOf ps ↔ ∃ p ∈ ps, t ∈ p.plainTypes := by
  induction ps with
  | nil => simp [Parameter.plainTypesOf]
  | cons p ps ih => simp [Parameter.plainTypesOf, ih]

mutual

theorem Parameter.holds_of_mem : (p : Parameter) → t ∈ p.plainTypes → p.Holds t
  | ⟨name, typeText, internalType, components, indexed⟩, ht => by
    simp only [plainTypes] at ht
    split at ht
    · cases ht
    · rename_i e dims hp
      obtain rfl := List.mem_singleton.mp ht
      exact .here hp
    · rename_i dims hp
      obtain ⟨q, hq, hold⟩ := holds_of_mem_parts components ht
      exact .part hp hq hold

theorem Parameter.holds_of_mem_parts : (ps : List Parameter) → t ∈ Parameter.plainTypesOf ps →
    ∃ p ∈ ps, p.Holds t
  | p :: ps, ht => by
    rcases List.mem_append.mp ht with ht | ht
    · exact ⟨p, List.mem_cons_self, holds_of_mem p ht⟩
    · obtain ⟨q, hq, hold⟩ := holds_of_mem_parts ps ht
      exact ⟨q, List.mem_cons_of_mem _ hq, hold⟩

end

theorem Parameter.Holds.mem {p : Parameter} (h : p.Holds t) : t ∈ p.plainTypes := by
  induction h with
  | @here p h =>
    obtain ⟨name, typeText, internalType, components, indexed⟩ := p
    simp only at h
    simp only [plainTypes, h, List.mem_singleton]
  | @part p q dims h hq hold ih =>
    obtain ⟨name, typeText, internalType, components, indexed⟩ := p
    simp only at h
    simp only [plainTypes, h]
    exact mem_plainTypesOf.mpr ⟨q, hq, ih⟩

theorem Declaration.mem_plainTypes {d : Declaration} :
    t ∈ d.plainTypes ↔ ∃ p ∈ d.inputs ++ d.results, p.Holds t := by
  rw [plainTypes, mem_plainTypesOf]
  constructor
  · rintro ⟨p, hp, ht⟩
    exact ⟨p, hp, p.holds_of_mem ht⟩
  · rintro ⟨p, hp, hold⟩
    exact ⟨p, hp, hold.mem⟩

end Holding

/-- The wide integers among what the declarations mention, each with its declaration. Those of
inputs stand before those of outputs, and those of a tuple's parts follow each other. -/
def wideMentions (ds : List Declaration) : List String :=
  ds.flatMap fun d => (d.plainTypes.filter (·.1.isWide)).map (lossText d.describe)

theorem declaredLosses_native (ds : List Declaration) :
    declaredLosses .native ds = wideMentions ds := by
  simp only [declaredLosses, wideMentions, lossTexts, native_target_isNone]

/-- A report of a wide integer has a declaration that mentions one. -/
theorem mem_wideMentions {ds : List Declaration} {text : String} :
    text ∈ wideMentions ds ↔ ∃ d ∈ ds, ∃ p ∈ d.inputs ++ d.results, ∃ t,
      p.Holds t ∧ t.1.isWide = true ∧ text = lossText d.describe t := by
  simp only [wideMentions, List.mem_flatMap, List.mem_map, List.mem_filter,
    Declaration.mem_plainTypes]
  constructor
  · rintro ⟨d, hd, t, ⟨⟨p, hp, hold⟩, hwide⟩, rfl⟩
    exact ⟨d, hd, p, hp, t, hold, hwide, rfl⟩
  · rintro ⟨d, hd, p, hp, t, hold, hwide, rfl⟩
    exact ⟨d, hd, t, ⟨⟨p, hp, hold⟩, hwide⟩, rfl⟩

theorem Gathered.checkPrecision_of_loss {g : Gathered} (h : g.losses ≠ []) :
    g.checkPrecision = .error (.unsupportedPrecision g.losses) := by
  rw [checkPrecision, if_neg (by simpa using h)]

/-- Acceptable declarations compile in native mode unless they mention wide integers; then all of
these are reported. -/
theorem compileDeclarations_native_cases {options : Options} {contractName : String}
    {modulePath : ModulePath} {ds : List Declaration} {bytecode : Option String}
    (hn : options.representation = .native) (ha : Acceptable ds) :
    ((∃ b, (compileDeclarations options contractName modulePath ds bytecode).result = .ok b) ∧
        wideMentions (keptDeclarations ds) = []) ∨
      (compileDeclarations options contractName modulePath ds bytecode).result =
        .error (.unsupportedPrecision (wideMentions (keptDeclarations ds)).eraseDups) ∧
      wideMentions (keptDeclarations ds) ≠ [] := by
  obtain ⟨rs, g, hr⟩ := ha.resolves options.representation
  have hlost := lost_resolveDeclarations Gathered.lost_empty hr
  have hlosses : g.losses = (wideMentions (keptDeclarations ds)).eraseDups := by
    rw [hlost.losses, resolveDeclarations_keeps SeenIn.nil hr, hn, declaredLosses_native]
    rfl
  rw [compileDeclarations_resolved hr]
  by_cases hw : wideMentions (keptDeclarations ds) = []
  · have hlossless : g.losses = [] := by rw [hlosses, hw]; rfl
    rw [Gathered.checkPrecision_of_lossless hlossless]
    exact .inl ⟨buildBindings_ok (overloads_readable hr), hw⟩
  · have hloss : g.losses ≠ [] := by
      rw [hlosses]
      intro he
      exact hw (List.eq_nil_iff_forall_not_mem.mpr fun text ht => by
        simpa [he] using List.mem_eraseDups.mpr ht)
    rw [Gathered.checkPrecision_of_loss hloss, hlosses]
    exact .inr ⟨rfl, hw⟩

/-- What compiles in precise mode fails in native mode just when a declaration that is kept mentions
a wide integer. The failure then lists the mentions, each once and at its first place. -/
theorem native_failure_lists_wide (options : Options) (contractName : String)
    (modulePath : ModulePath) (ds : List Declaration) (bytecode : Option String)
    (h : ∃ b, (compileDeclarations { options with representation := .precise } contractName
      modulePath ds bytecode).result = .ok b) :
    let native := (compileDeclarations { options with representation := .native } contractName
      modulePath ds bytecode).result
    ((∃ e, native = .error e) ↔ ∃ d ∈ keptDeclarations ds, ∃ p ∈ d.inputs ++ d.results,
      ∃ t, p.Holds t ∧ t.1.isWide = true) ∧
    (∀ e, native = .error e → e = .unsupportedPrecision
      ((keptDeclarations ds).flatMap fun d =>
        ((Parameter.plainTypesOf (d.inputs ++ d.results)).filter (·.1.isWide)).map
          (lossText d.describe)).eraseDups) ∧
    ∀ affected, native = .error (.unsupportedPrecision affected) → affected.Nodup ∧
      ∀ text, text ∈ affected ↔ ∃ d ∈ keptDeclarations ds, ∃ p ∈ d.inputs ++ d.results,
        ∃ t, p.Holds t ∧ t.1.isWide = true ∧ text = lossText d.describe t := by
  intro native
  have ha : Acceptable ds := (compileDeclarations_precise_ok_iff rfl).mp h
  have hcases : ((∃ b, native = .ok b) ∧ wideMentions (keptDeclarations ds) = []) ∨
      native = .error (.unsupportedPrecision (wideMentions (keptDeclarations ds)).eraseDups) ∧
        wideMentions (keptDeclarations ds) ≠ [] := compileDeclarations_native_cases rfl ha
  rcases hcases with ⟨⟨b, hb⟩, hnone⟩ | ⟨he, hsome⟩
  · refine ⟨⟨?_, ?_⟩, ?_, ?_⟩
    · rintro ⟨e, he⟩
      cases hb.symm.trans he
    · rintro ⟨d, hd, p, hp, t, hold, hwide⟩
      have hm : lossText d.describe t ∈ wideMentions (keptDeclarations ds) :=
        mem_wideMentions.mpr ⟨d, hd, p, hp, t, hold, hwide, rfl⟩
      rw [hnone] at hm
      cases hm
    · intro e he
      cases hb.symm.trans he
    · intro affected he
      cases hb.symm.trans he
  · refine ⟨⟨fun _ => ?_, fun _ => ⟨_, he⟩⟩, ?_, ?_⟩
    · obtain ⟨text, ht⟩ := List.exists_mem_of_ne_nil _ hsome
      obtain ⟨d, hd, p, hp, t, hold, hwide, _⟩ := mem_wideMentions.mp ht
      exact ⟨d, hd, p, hp, t, hold, hwide⟩
    · intro e he'
      exact Except.error.inj (he'.symm.trans he)
    · intro affected he'
      cases he'.symm.trans he
      exact ⟨(eraseDups_order _).imp And.left,
        fun text => List.mem_eraseDups.trans mem_wideMentions⟩

section Vault

theorem vault_mentions : (wideMentions (keptDeclarations vault)).eraseDups =
    ["function `balance` (`uint256`)", "function `deposit` (`uint256`)"] := by
  decide +kernel

theorem vault_holds_wide : ∃ d ∈ keptDeclarations vault, ∃ p ∈ d.inputs ++ d.results,
    ∃ t, p.Holds t ∧ t.1.isWide = true := by
  have hm : "function `balance` (`uint256`)" ∈ wideMentions (keptDeclarations vault) := by
    rw [← List.mem_eraseDups, vault_mentions]
    exact List.mem_cons_self
  obtain ⟨d, hd, p, hp, t, hold, hwide, _⟩ := mem_wideMentions.mp hm
  exact ⟨d, hd, p, hp, t, hold, hwide⟩

/-- A vault keeps amounts of 256 bits. -/
theorem native_failure_lists_wide_vault : (∃ b, vaultBindings = .ok b) ∧
    (compileDeclarations { representation := .native } "Vault" ⟨["market"]⟩ vault none).result =
      .error (.unsupportedPrecision
        ["function `balance` (`uint256`)", "function `deposit` (`uint256`)"]) := by
  obtain ⟨b, hb, _⟩ := vaultBindings_ok
  have hlists := native_failure_lists_wide {} "Vault" ⟨["market"]⟩ vault none ⟨b, hb⟩
  obtain ⟨e, he⟩ := hlists.1.mpr vault_holds_wide
  have hwide := hlists.2.1 e he
  refine ⟨⟨b, hb⟩, he.trans ?_⟩
  rw [hwide, ← vault_mentions]
  rfl

end Vault

end AbiBindings
