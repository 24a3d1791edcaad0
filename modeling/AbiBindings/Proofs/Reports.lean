import AbiBindings.Proofs.Acceptance
import AbiBindings.Proofs.Collisions

namespace AbiBindings

/-- What is left out of declarations that stand after others: those that repeat one before them. -/
def repeatsAfter (before : List Declaration) : List Declaration → List Declaration
  | [] => []
  | d :: ds =>
    if d.Repeats before then d :: repeatsAfter (before ++ [d]) ds
    else repeatsAfter (before ++ [d]) ds

namespace Declaration

/-- The signature of a declaration, if its inputs can be read. -/
def spelling (d : Declaration) : String :=
  (signature d.nameOrKind d.inputs d.describe).toOption.getD ""

def repeatReport (d : Declaration) : Diagnostic := .duplicateDeclaration d.describe d.spelling

theorem Signed.spelling_eq {d : Declaration} {sig : String} (h : d.Signed sig) :
    d.spelling = sig := by
  rw [spelling, h]
  rfl

end Declaration

def repeatReports (before ds : List Declaration) : List Diagnostic :=
  (repeatsAfter before ds).map (·.repeatReport)

/-- Every declaration is either kept or left out. -/
theorem kept_repeats_perm (before ds : List Declaration) :
    (keptAfter before ds ++ repeatsAfter before ds).Perm ds := by
  induction ds generalizing before with
  | nil => exact .nil
  | cons d ds ih =>
    simp only [keptAfter, repeatsAfter]
    split
    · exact List.perm_middle.trans ((ih _).cons d)
    · exact (ih _).cons d

section Resolving

variable {mode : Representation} {seen : List (Kind × String)} {g g' : Gathered}
variable {before ds : List Declaration} {rs : List ResolvedDeclaration}

/-- Declarations that can be resolved all have a signature, those left out too. -/
theorem resolveDeclarations_signed (h : (resolveDeclarations mode seen g ds).2 = .ok (rs, g')) :
    ∀ d ∈ ds, d.Signed d.spelling := by
  obtain ⟨kept, _, hk⟩ := resolveDeclarations_kept h
  intro d hd
  obtain ⟨i, hi⟩ := List.mem_iff_getElem?.mp hd
  obtain ⟨sig, hsig⟩ := hk.declared hi
  rwa [hsig.spelling_eq]

/-- Resolving reports the declarations that repeat one before them, in their order. -/
theorem resolveDeclarations_reports (hseen : SeenIn seen before)
    (h : (resolveDeclarations mode seen g ds).2 = .ok (rs, g')) :
    (resolveDeclarations mode seen g ds).1 = repeatReports before ds := by
  induction ds generalizing seen g before rs with
  | nil => rfl
  | cons d ds ih =>
    obtain ⟨sig, hsig, ⟨hm, hrest⟩ | ⟨hm, r, g₁, rest, hr, hrest, rfl⟩⟩ :=
      resolveDeclarations_cons h
    · have hrepeats : d.Repeats before := (hseen d sig hsig).mp hm
      have hreports := ih (hseen.repeated hsig hm) hrest
      simp only [resolveDeclarations, hsig, if_pos hm, repeatReports, repeatsAfter,
        if_pos hrepeats, List.map_cons, Declaration.repeatReport,
        Declaration.Signed.spelling_eq hsig]
      exact congrArg _ hreports
    · have hnew : ¬ d.Repeats before := fun hrep => hm ((hseen d sig hsig).mpr hrep)
      have hreports := ih (hseen.new hsig) hrest
      simp only [resolveDeclarations, hsig, if_neg hm, hr, repeatReports, repeatsAfter,
        if_neg hnew]
      exact hreports

end Resolving

/-- What is said of the contract's type name when it is not the one that its name asks for. -/
def handleReports (contractName typeName : String) : List Diagnostic :=
  let wanted := Naming.typeIdent contractName "Contract"
  if typeName = wanted then [] else [.contractName contractName wanted typeName]

def constructorReports (ds : List ResolvedDeclaration) : List Diagnostic :=
  ((ds.find? fun d => d.declaration.kind = .constructor).map (·.argumentReports)).getD []

section Building

variable {options : Options} {contractName : String} {modulePath : ModulePath}
variable {shapes : ShapeTable} {ds : List ResolvedDeclaration} {bytecode : Option String}
variable {b : ContractBindings}

theorem bindClaimed_reports (claimed : List (ResolvedDeclaration × String)) :
    (claimed.map fun x => bindFunction x.1 x.2).flatMap (·.2) =
      (claimed.map (·.1)).flatMap (·.argumentReports) := by
  rw [List.flatMap_map, List.flatMap_map]
  refine List.flatMap_congr fun x _ => ?_
  rw [bindFunction_reports]

/-- Each stage of building reports what it renamed, and no stage reports anything else. -/
theorem buildBindings_reports
    (h : (buildBindings options contractName modulePath shapes ds bytecode).result = .ok b) :
    (buildBindings options contractName modulePath shapes ds bytecode).diagnostics =
      handleReports contractName b.typeName
        ++ (collisionReports b.typeName shapes b.structs ++ b.structs.flatMap (·.fieldReports))
        ++ ((overloads ds).flatMap (·.2)).flatMap (·.argumentReports)
        ++ (ofKind .event ds).flatMap (·.argumentReports)
        ++ (ofKind .error ds).flatMap (·.argumentReports)
        ++ (bytecode.map fun _ => constructorReports ds).getD [] := by
  obtain ⟨⟨typeName, diags, types⟩, hcontract⟩ : ∃ p, nameContract contractName = p := ⟨_, rfl⟩
  obtain ⟨⟨structs, diags₁, types₁⟩, hstructs⟩ : ∃ p, shapes.name types typeName = p := ⟨_, rfl⟩
  simp only [buildBindings, hcontract, hstructs] at h ⊢
  split at h
  · cases h
  · rename_i claimed methods hclaimed
    have hhandle : diags = handleReports contractName typeName := by
      simp only [nameContract, Prod.mk.injEq] at hcontract
      obtain ⟨rfl, rfl, _⟩ := hcontract
      rfl
    have hfunctions := bindClaimed_reports claimed
    rw [(claimGroups_spec hclaimed).1] at hfunctions
    cases h
    simp only [hhandle, ShapeTable.name_reports hstructs, hfunctions, bindEvents_reports,
      bindErrors_reports, Option.map_map, Function.comp_def, bindDeploy_reports,
      constructorReports]

end Building

/-- The declaration that comes first of its kind with a signature. -/
def firstDeclared (ds : List Declaration) (kind : Kind) (sig : String) : Option Declaration :=
  ds.find? fun d => d.kind = kind ∧ d.spelling = sig

def declaredReports (ds : List Declaration) (kind : Kind) (sig : String) (names : List String) :
    List Diagnostic :=
  ((firstDeclared ds kind sig).map (·.argumentReports names)).getD []

def deployReports (ds : List Declaration) (helper : DeployHelper) : List Diagnostic :=
  ((ds.find? fun d => d.kind = .constructor).map
    (·.argumentReports (helper.inputs.map (·.name)))).getD []

/-- A declaration has a signature and takes so many arguments. -/
def Declares (ds : List Declaration) (kind : Kind) (sig : String) (count : Nat) : Prop :=
  ∃ d, firstDeclared ds kind sig = some d ∧ d.inputs.length = count

/-- Diagnostics that say of bindings what was left out of the declarations and what goes by another
name than it asked for, each thing once and in order, and that say nothing else. -/
structure ContractBindings.Accounted (b : ContractBindings) (contractName : String)
    (ds : List Declaration) (bytecode : Option String) (shapes : ShapeTable)
    (diagnostics : List Diagnostic) : Prop where
  signed : ∀ d ∈ ds, d.Signed d.spelling
  structs : b.structs.map (·.id) = List.range shapes.length
  deployed : b.deploy.isSome = bytecode.isSome
  functions : ∀ f ∈ b.functions, Declares ds .function f.signature f.inputs.length
  events : ∀ e ∈ b.events, Declares ds .event e.signature e.fields.length
  errors : ∀ e ∈ b.errors, Declares ds .error e.signature e.fields.length
  deploy : ∀ helper ∈ b.deploy, ∀ d ∈ ds.find? fun d => d.kind = .constructor,
    d.inputs.length = helper.inputs.length
  reports : diagnostics = repeatReports [] ds
    ++ (handleReports contractName b.typeName
    ++ (collisionReports b.typeName shapes b.structs ++ b.structs.flatMap (·.fieldReports))
    ++ b.functions.flatMap (fun f =>
        declaredReports ds .function f.signature (f.inputs.map (·.name)))
    ++ b.events.flatMap (fun e => declaredReports ds .event e.signature (e.fields.map (·.name)))
    ++ b.errors.flatMap (fun e => declaredReports ds .error e.signature (e.fields.map (·.name)))
    ++ (b.deploy.map (deployReports ds)).getD [])

section Accounting

variable {options : Options} {contractName : String} {modulePath : ModulePath}
variable {ds : List Declaration} {bytecode : Option String} {b : ContractBindings}
variable {mode : Representation} {rs : List ResolvedDeclaration} {g : Gathered}

/-- The declaration that comes first with a signature is found by it. -/
theorem FirstSigned.firstDeclared_eq {kind : Kind} {place : Nat} {d : Declaration} {sig : String}
    (h : FirstSigned ds kind place d sig) (hall : ∀ d ∈ ds, d.Signed d.spelling) :
    firstDeclared ds kind sig = some d := by
  obtain ⟨hplace, hd⟩ := List.getElem?_eq_some_iff.mp h.here
  refine List.find?_eq_some_iff_getElem.mpr ⟨?_, place, hplace, hd, ?_⟩
  · simp [h.ofKind, h.signed.spelling_eq]
  · intro i hi
    have hlt : i < ds.length := Nat.lt_trans hi hplace
    have hearlier := h.first i hi ds[i] (List.getElem?_eq_getElem hlt)
    have hsigned := hall ds[i] (List.getElem_mem hlt)
    simp only [Bool.not_eq_true', decide_eq_false_iff_not, not_and]
    intro hkind he
    exact hearlier hkind (he ▸ hsigned)

theorem ResolvedDeclaration.Sound.argumentReports_eq {keys : List ShapeKey}
    {r : ResolvedDeclaration} (h : r.Sound mode keys) :
    r.argumentReports = r.declaration.argumentReports (claimedNames "param" r.declaration.inputs) := by
  rw [ResolvedDeclaration.argumentReports, h.origin]
  rfl

theorem nameArguments_names {params : List Parameter} {types : List Resolved} (origin : String)
    (h : types.length = params.length) :
    (nameArguments origin params types).1.map (·.name) = claimedNames "param" params :=
  pairMembers_claimed "param" h

theorem eventFields_names {d : ResolvedDeclaration}
    (hlen : d.inputs.length = d.declaration.inputs.length) :
    (eventFields d).1.map (·.name) = claimedNames "param" d.declaration.inputs := by
  obtain ⟨named, hnames, _, hfields⟩ := eventFields_named hlen
  rw [hfields, placeFields_names, hnames]

theorem mem_ofKind {kind : Kind} {r : ResolvedDeclaration} :
    r ∈ ofKind kind rs ↔ r ∈ rs ∧ r.declaration.kind = kind := by
  simp [ofKind]

theorem map_eq_of_faces {α β γ δ : Type} {face : α → γ} {mk : β → γ} {view : α → δ}
    {view' : β → δ} {xs : List α} {ys : List β} (h : xs.map face = ys.map mk)
    (hview : ∀ x ∈ xs, ∀ y ∈ ys, face x = mk y → view x = view' y) :
    xs.map view = ys.map view' := by
  have hall := forall₂_of_map_eq h hview
  rw [← List.forall₂_eq_eq_eq, List.forall₂_map_left_iff, List.forall₂_map_right_iff]
  exact hall

namespace ContractBindings.Compiled

/-- What is kept of a kind with names is found again by its signature. -/
theorem firstDeclared_eq (h : b.Compiled mode ds bytecode rs g) {r : ResolvedDeclaration}
    {kind : Kind} (hr : r ∈ rs) (hk : r.declaration.kind = kind) (hn : kind.isNamed = true) :
    firstDeclared ds kind r.signature = some r.declaration := by
  obtain ⟨_, hf⟩ := h.firstSigned hr hk hn
  exact hf.firstDeclared_eq (resolveDeclarations_signed h.resolved)

/-- Bindings of a kind with names account for the arguments of their declarations. -/
theorem declared_reports {α γ : Type} {kind : Kind} {xs : List α}
    {rs' : List ResolvedDeclaration} {sig : α → String} {names : α → List String} {face : α → γ}
    {mk : ResolvedDeclaration → γ} (h : b.Compiled mode ds bytecode rs g)
    (hn : kind.isNamed = true) (hmem : ∀ r ∈ rs', r ∈ rs ∧ r.declaration.kind = kind)
    (hfaces : xs.map face = rs'.map mk)
    (hviews : ∀ x r, r.Sound mode (structKeys b.structs) → face x = mk r →
      sig x = r.signature ∧ names x = claimedNames "param" r.declaration.inputs) :
    (∀ x ∈ xs, Declares ds kind (sig x) (names x).length) ∧
      rs'.flatMap (·.argumentReports) =
        xs.flatMap fun x => declaredReports ds kind (sig x) (names x) := by
  have hfirst : ∀ r ∈ rs', firstDeclared ds kind r.signature = some r.declaration :=
    fun r hr => h.firstDeclared_eq (hmem r hr).1 (hmem r hr).2 hn
  refine ⟨?_, ?_⟩
  · intro x hx
    have hm : face x ∈ xs.map face := List.mem_map_of_mem hx
    rw [hfaces] at hm
    obtain ⟨r, hr, hface⟩ := List.mem_map.mp hm
    obtain ⟨hs, hnames⟩ := hviews x r (h.sound r (hmem r hr).1) hface.symm
    refine ⟨r.declaration, hs ▸ hfirst r hr, ?_⟩
    rw [hnames, length_claimedNames]
  · rw [List.flatMap_def, List.flatMap_def]
    refine congrArg List.flatten (map_eq_of_faces hfaces ?_).symm
    intro x _ r hr hface
    obtain ⟨hs, hnames⟩ := hviews x r (h.sound r (hmem r hr).1) hface
    rw [hs, hnames, declaredReports, hfirst r hr,
      (h.sound r (hmem r hr).1).argumentReports_eq]
    rfl

/-- Functions stand for declarations, and their reports are those of their arguments. -/
theorem functions_accounted (h : b.Compiled mode ds bytecode rs g) :
    (∀ f ∈ b.functions, Declares ds .function f.signature (f.inputs.map (·.name)).length) ∧
      ((overloads rs).flatMap (·.2)).flatMap (·.argumentReports) = b.functions.flatMap fun f =>
        declaredReports ds .function f.signature (f.inputs.map (·.name)) := by
  refine h.declared_reports rfl (fun r hr => mem_overloads hr) h.function_faces ?_
  intro f r hs hface
  have hinputs : f.inputs = _ := congrArg (·.inputs) hface
  exact ⟨congrArg (·.signature) hface, hinputs ▸ nameArguments_names r.origin hs.inputs.length⟩

/-- Events stand for declarations, and their reports are those of their fields. -/
theorem events_accounted (h : b.Compiled mode ds bytecode rs g) :
    (∀ e ∈ b.events, Declares ds .event e.signature (e.fields.map (·.name)).length) ∧
      (ofKind .event rs).flatMap (·.argumentReports) = b.events.flatMap fun e =>
        declaredReports ds .event e.signature (e.fields.map (·.name)) := by
  refine h.declared_reports rfl (fun r hr => mem_ofKind.mp hr) h.built.events ?_
  intro e r hs hface
  have hfields : e.fields = _ := congrArg (·.fields) hface
  exact ⟨congrArg (·.signature) hface, hfields ▸ eventFields_names hs.inputs.length⟩

/-- Errors stand for declarations, and their reports are those of their fields. -/
theorem errors_accounted (h : b.Compiled mode ds bytecode rs g) :
    (∀ e ∈ b.errors, Declares ds .error e.signature (e.fields.map (·.name)).length) ∧
      (ofKind .error rs).flatMap (·.argumentReports) = b.errors.flatMap fun e =>
        declaredReports ds .error e.signature (e.fields.map (·.name)) := by
  refine h.declared_reports rfl (fun r hr => mem_ofKind.mp hr) h.built.errors ?_
  intro e r hs hface
  have hfields : e.fields = _ := congrArg (·.fields) hface
  exact ⟨congrArg (·.signature) hface, hfields ▸ nameArguments_names r.origin hs.inputs.length⟩

/-- What deployment takes accounts for the arguments of the first constructor. -/
theorem deploy_accounted (h : b.Compiled mode ds bytecode rs g) :
    (∀ helper ∈ b.deploy, ∀ d ∈ ds.find? fun d => d.kind = .constructor,
        d.inputs.length = helper.inputs.length) ∧
      (bytecode.map fun _ => constructorReports rs).getD [] =
        (b.deploy.map (deployReports ds)).getD [] := by
  have hfirst := resolveDeclarations_find .constructor rfl (by simp) h.resolved
  rw [h.built.deploy]
  cases bytecode with
  | none => exact ⟨by simp, rfl⟩
  | some code =>
    simp only [Option.map_some, Option.mem_some_iff, forall_eq', Option.getD_some,
      constructorReports, deployReports, ← hfirst]
    cases hf : rs.find? fun r => r.declaration.kind = .constructor with
    | none => simp
    | some r =>
      have hs := h.sound r (List.mem_of_find?_eq_some hf)
      have hinputs : (bindDeploy rs code).1.inputs =
          (nameArguments r.origin r.declaration.inputs r.inputs).1 := by
        simp only [bindDeploy, hf]
      have hnames := nameArguments_names r.origin hs.inputs.length
      simp only [Option.map_some, Option.mem_some_iff, forall_eq', Option.getD_some, hinputs,
        hnames, hs.argumentReports_eq, and_true]
      rw [← length_claimedNames "param", ← hnames, List.length_map]

end ContractBindings.Compiled

/-- Diagnostics account exactly for what was left out and what was renamed. -/
theorem diagnostics_account
    (h : (compileDeclarations options contractName modulePath ds bytecode).result = .ok b) :
    ∃ rs g, (resolveDeclarations options.representation [] .empty ds).2 = .ok (rs, g) ∧
      (rs.map (·.declaration) ++ repeatsAfter [] ds).Perm ds ∧
      b.Accounted contractName ds bytecode g.shapes
        (compileDeclarations options contractName modulePath ds bytecode).diagnostics := by
  obtain ⟨rs, g, hc, hbuilt, hrun⟩ := compileDeclarations_run h
  obtain ⟨hfunctions, hfunctionReports⟩ := hc.functions_accounted
  obtain ⟨hevents, heventReports⟩ := hc.events_accounted
  obtain ⟨herrors, herrorReports⟩ := hc.errors_accounted
  obtain ⟨hdeploy, hdeployReports⟩ := hc.deploy_accounted
  simp only [List.length_map] at hfunctions hevents herrors
  have hkept : rs.map (·.declaration) = keptAfter [] ds :=
    resolveDeclarations_keeps SeenIn.nil hc.resolved
  refine ⟨rs, g, hc.resolved, hkept ▸ kept_repeats_perm [] ds,
    resolveDeclarations_signed hc.resolved, ?_, ?_, hfunctions, hevents, herrors, hdeploy, ?_⟩
  · have hlen : b.structs.length = g.shapes.length := by
      simpa using congrArg List.length hc.built.bodies
    rw [hc.built.ids, hlen]
  · rw [hc.built.deploy, Option.isSome_map]
  · rw [hrun, resolveDeclarations_reports SeenIn.nil hc.resolved, buildBindings_reports hbuilt,
      hfunctionReports, heventReports, herrorReports, hdeployReports]

end Accounting

section Bazaar

/-- Something is renamed at every place where names are given, and a function is declared again. -/
def bazaar : List Declaration :=
  let amount (name : String) : Parameter := { name, typeText := "uint256" }
  let lot : Parameter := { name := "lot", typeText := "tuple", internalType := some "struct Vec"
                           components := [amount "x", amount "X"] }
  let crate : Parameter := { name := "Box2", typeText := "tuple", components := [amount "x"] }
  [{ kind := .constructor, inputs := [amount "fee", amount "fee"] },
    { kind := .function, name := some "trade", inputs := [lot, amount "lot"] },
    { kind := .function, name := some "trade", inputs := [{ lot with name := "it" }, amount "it"] },
    { kind := .event, name := some "Traded", inputs := [crate, amount "box2"] },
    { kind := .error, name := some "Refused", inputs := [amount "param1", amount ""] }]

def bazaarOutcome : Outcome ContractBindings :=
  compileDeclarations {} "Box" ⟨["market"]⟩ bazaar (some "6000")

theorem bazaarOutcome_ok : ∃ b, bazaarOutcome.result = .ok b ∧ b.typeNames =
    ["Box2", "Vec2", "Box22", "TradedEvent", "RefusedError"] :=
  ok_of_view (by decide +kernel)

/-- Nine things are told of a contract whose names are all in use. -/
theorem diagnostics_account_bazaar : ∃ b, bazaarOutcome.result = .ok b ∧
    (∃ rs g, (resolveDeclarations .precise [] .empty bazaar).2 = .ok (rs, g) ∧
      (rs.map (·.declaration) ++ repeatsAfter [] bazaar).Perm bazaar ∧
      b.Accounted "Box" bazaar (some "6000") g.shapes bazaarOutcome.diagnostics) ∧
    bazaarOutcome.diagnostics =
      [.duplicateDeclaration "function `trade`" "trade((uint256,uint256),uint256)",
        .contractName "Box" "Box" "Box2",
        .structName "Vec" "a name the generated module imports" "Vec2" "function `trade`",
        .structName "Box2" "the contract handle" "Box22" "event `Traded`",
        .duplicateField "struct `Vec2`" "x" "x_1",
        .duplicateField "function `trade`" "lot" "lot_1",
        .duplicateField "event `Traded`" "box2" "box2_1",
        .duplicateField "error `Refused`" "param1" "param1_1",
        .duplicateField "constructor" "fee" "fee_1"] := by
  obtain ⟨b, hb, _⟩ := bazaarOutcome_ok
  have haccount := diagnostics_account hb
  exact ⟨b, hb, haccount, by decide +kernel⟩

end Bazaar

end AbiBindings
