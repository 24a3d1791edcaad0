import AbiBindings.Proofs.Reports

namespace AbiBindings

theorem repeatsAfter_append {before xs ys : List Declaration} :
    repeatsAfter before (xs ++ ys) = repeatsAfter before xs ++ repeatsAfter (before ++ xs) ys := by
  induction xs generalizing before with
  | nil => simp [repeatsAfter]
  | cons d xs ih =>
    simp only [List.cons_append, repeatsAfter, ih, List.append_assoc, List.nil_append]
    split <;> simp

theorem repeatReports_append (xs ys : List Declaration) :
    repeatReports [] (xs ++ ys) = repeatReports [] xs ++ repeatReports xs ys := by
  rw [repeatReports, repeatsAfter_append, List.map_append]
  rfl

section Resolving

variable {mode : Representation} {seen : List (Kind × String)} {g g' : Gathered}
variable {earlier before after : List Declaration} {rs : List ResolvedDeclaration}
variable {d : Declaration} {sig : String}

/-- A declaration that repeats one before it is reported at its place, and nothing else comes of it.
The induction is on what stands before it, with what was seen kept in step. -/
theorem resolveDeclarations_insert (hseen : SeenIn seen earlier)
    (h : (resolveDeclarations mode seen g (before ++ after)).2 = .ok (rs, g'))
    (hsig : d.Signed sig) (hrepeats : d.Repeats (earlier ++ before)) :
    resolveDeclarations mode seen g (before ++ d :: after) =
      (repeatReports earlier before ++
        .duplicateDeclaration d.describe sig :: repeatReports (earlier ++ before) after,
        .ok (rs, g')) := by
  induction before generalizing seen g earlier rs with
  | nil =>
    rw [List.append_nil] at hrepeats ⊢
    have hm : d.identity sig ∈ seen := (hseen d sig hsig).mpr hrepeats
    have hs : signature d.nameOrKind d.inputs d.describe = .ok sig := hsig
    have hafter : resolveDeclarations mode seen g after = (repeatReports earlier after, _) :=
      Prod.ext (resolveDeclarations_reports hseen h) h
    simp only [List.nil_append, resolveDeclarations, hs, if_pos hm, hafter, repeatReports,
      repeatsAfter, List.map_nil]
  | cons c before ih =>
    obtain ⟨csig, hcsig, ⟨hm, hrest⟩ | ⟨hm, r, g₁, rest, hr, hrest, rfl⟩⟩ :=
      resolveDeclarations_cons h
    · have hc : c.Repeats earlier := (hseen c csig hcsig).mp hm
      have hinserted := ih (hseen.repeated hcsig hm) hrest (by simpa using hrepeats)
      simp only [List.cons_append, resolveDeclarations, hcsig, if_pos hm, hinserted, repeatReports,
        repeatsAfter, if_pos hc, List.map_cons, Declaration.repeatReport,
        Declaration.Signed.spelling_eq hcsig, List.append_assoc, List.nil_append]
    · have hc : ¬ c.Repeats earlier := fun hrep => hm ((hseen c csig hcsig).mpr hrep)
      have hinserted := ih (hseen.new hcsig) hrest (by simpa using hrepeats)
      simp only [List.cons_append, resolveDeclarations, hcsig, if_neg hm, hr, hinserted,
        repeatReports, repeatsAfter, if_neg hc, List.append_assoc, List.nil_append]
      rfl

end Resolving

section Kinds

/-- A member that is renamed is reported as a duplicate field, whatever it belongs to. -/
theorem renameReports_kind (owner label : String) (position : Nat)
    (members : List (String × String)) :
    ∀ r ∈ renameReports owner label position members, r.kind = .duplicateField := by
  intro r hr
  obtain ⟨⟨⟨raw, name⟩, i⟩, _, he⟩ := List.mem_filterMap.mp hr
  by_cases hn : name = Naming.valueIdent raw (label ++ toString i)
  · simp [hn] at he
  · simp only [if_neg hn, Option.some.injEq] at he
    rw [← he]
    rfl

theorem argumentReports_kind {ds : List ResolvedDeclaration} :
    ∀ r ∈ ds.flatMap (·.argumentReports), r.kind = .duplicateField := by
  intro r hr
  obtain ⟨d, _, hr⟩ := List.mem_flatMap.mp hr
  exact renameReports_kind _ _ _ _ r hr

theorem fieldReports_kind {structs : List StructDefinition} :
    ∀ r ∈ structs.flatMap (·.fieldReports), r.kind = .duplicateField := by
  intro r hr
  obtain ⟨d, _, hr⟩ := List.mem_flatMap.mp hr
  exact renameReports_kind _ _ _ _ r hr

theorem constructorReports_kind {ds : List ResolvedDeclaration} :
    ∀ r ∈ constructorReports ds, r.kind = .duplicateField := by
  intro r hr
  unfold constructorReports at hr
  cases hf : ds.find? fun d => d.declaration.kind = .constructor with
  | none => simp [hf] at hr
  | some d =>
    rw [hf] at hr
    exact renameReports_kind _ _ _ _ r hr

theorem handleReports_kind {contractName typeName : String} :
    ∀ r ∈ handleReports contractName typeName, r.kind = .nameCollision := by
  intro r hr
  unfold handleReports at hr
  by_cases hn : typeName = Naming.typeIdent contractName "Contract"
  · simp [hn] at hr
  · rw [if_neg hn, List.mem_singleton] at hr
    rw [hr]
    rfl

/-- A struct that is renamed is reported as a collision. -/
theorem collisionReports_kind {contractType : String} {shapes : ShapeTable}
    {structs : List StructDefinition} :
    ∀ r ∈ collisionReports contractType shapes structs, r.kind = .nameCollision := by
  intro r hr
  obtain ⟨⟨shape, d⟩, _, he⟩ := List.mem_filterMap.mp hr
  unfold Shape.collisionReport at he
  by_cases hn : d.name = shape.wanted d.id
  · simp [hn] at he
  · simp only [if_neg hn, Option.some.injEq] at he
    rw [← he]
    rfl

/-- Building speaks of names only. -/
theorem buildBindings_kinds {options : Options} {contractName : String} {modulePath : ModulePath}
    {shapes : ShapeTable} {ds : List ResolvedDeclaration} {bytecode : Option String}
    {b : ContractBindings}
    (h : (buildBindings options contractName modulePath shapes ds bytecode).result = .ok b) :
    ∀ r ∈ (buildBindings options contractName modulePath shapes ds bytecode).diagnostics,
      r.kind = .nameCollision ∨ r.kind = .duplicateField := by
  rw [buildBindings_reports h]
  simp only [List.forall_mem_append]
  refine ⟨⟨⟨⟨⟨?_, ?_, ?_⟩, ?_⟩, ?_⟩, ?_⟩, ?_⟩
  · exact fun r hr => .inl (handleReports_kind r hr)
  · exact fun r hr => .inl (collisionReports_kind r hr)
  · exact fun r hr => .inr (fieldReports_kind r hr)
  · exact fun r hr => .inr (argumentReports_kind r hr)
  · exact fun r hr => .inr (argumentReports_kind r hr)
  · exact fun r hr => .inr (argumentReports_kind r hr)
  · cases bytecode with
    | none => simp
    | some code => exact fun r hr => .inr (constructorReports_kind r hr)

end Kinds

section Insertion

variable {options : Options} {contractName : String} {modulePath : ModulePath}
variable {before after : List Declaration} {bytecode : Option String} {b : ContractBindings}
variable {d d' : Declaration}

theorem Declaration.sharesSignature_iff :
    d.sharesSignature d' = true ↔ ∃ sig, d.Signed sig ∧ d'.Signed sig := by
  unfold sharesSignature Signed
  constructor
  · intro h
    split at h
    · rename_i sig sig' hs hs'
      obtain rfl := of_decide_eq_true h
      exact ⟨sig, hs, hs'⟩
    · cases h
  · rintro ⟨sig, hs, hs'⟩
    simp [hs, hs']

/-- A declaration of a kind with names repeats another by its signature, one of a kind without names
by its kind alone. -/
theorem Declaration.repeats_of_mem (hd : d ∈ before) (hkind : d'.kind = d.kind)
    (hnamed : d.kind.isNamed = true → ∃ sig, d.Signed sig ∧ d'.Signed sig) :
    d'.Repeats before := by
  refine ⟨d, hd, hkind.symm, ?_⟩
  intro hn
  exact sharesSignature_iff.mpr (hnamed hn)

/-- A declaration of a kind with names has the signature that it shares, and any other has one since
its inputs can be read. -/
theorem Declaration.signed_of_repeat
    (hnamed : d.kind.isNamed = true → ∃ sig, d.Signed sig ∧ d'.Signed sig)
    (hnameless : d.kind.isNamed = false → ∀ p ∈ d'.inputs, p.Valid) : ∃ sig, d'.Signed sig := by
  cases hn : d.kind.isNamed with
  | true =>
    obtain ⟨sig, _, hs⟩ := hnamed hn
    exact ⟨sig, hs⟩
  | false =>
    rcases d'.signed_cases with ⟨sig, hs, _⟩ | ⟨e, _, hf⟩
    · exact ⟨sig, hs⟩
    · exact absurd (hnameless hn) hf.not_valid

/-- A declaration that repeats one before it leaves its report and nothing else, whatever it says
beyond its kind and its signature. -/
theorem repeat_leaves_report
    (h : (compileDeclarations options contractName modulePath (before ++ after) bytecode).result =
      .ok b)
    (hd : d ∈ before) (hkind : d'.kind = d.kind)
    (hnamed : d.kind.isNamed = true → ∃ sig, d.Signed sig ∧ d'.Signed sig)
    (hnameless : d.kind.isNamed = false → ∀ p ∈ d'.inputs, p.Valid) :
    ∃ sig rest, d'.Signed sig ∧ (∀ r ∈ rest, r.kind ≠ .duplicateDeclaration) ∧
      compileDeclarations options contractName modulePath (before ++ after) bytecode =
        ⟨repeatReports [] before ++ repeatReports before after ++ rest, .ok b⟩ ∧
      compileDeclarations options contractName modulePath (before ++ d' :: after) bytecode =
        ⟨repeatReports [] before ++
          .duplicateDeclaration d'.describe sig :: repeatReports before after ++ rest, .ok b⟩ := by
  obtain ⟨rs, g, hc, hbuilt, hrun⟩ := compileDeclarations_run h
  obtain ⟨sig, hsig⟩ := Declaration.signed_of_repeat hnamed hnameless
  have hrepeats : d'.Repeats ([] ++ before) := Declaration.repeats_of_mem hd hkind hnamed
  have hinserted := resolveDeclarations_insert SeenIn.nil hc.resolved hsig hrepeats
  have hrun' : compileDeclarations options contractName modulePath (before ++ d' :: after)
      bytecode = _ := compileDeclarations_lossless hinserted hc.lossless
  rw [resolveDeclarations_reports SeenIn.nil hc.resolved, repeatReports_append] at hrun
  rw [hbuilt] at hrun'
  refine ⟨sig, _, hsig, ?_, hrun, hrun'⟩
  intro r hr hrepeat
  rcases buildBindings_kinds hbuilt r hr with hk | hk
  · cases hk.symm.trans hrepeat
  · cases hk.symm.trans hrepeat

end Insertion

section Exchange

/-- The first order function again, read-only, with other names and with a result of no type. -/
def submitAgain : Declaration where
  kind := .function
  name := some "submit"
  inputs := [
    { name := "batch", typeText := "tuple[]", components :=
      [{ name := "seller", typeText := "address" }, { name := "", typeText := "uint[2]" }] },
    { name := "", typeText := "bytes32", indexed := true }]
  outputs := [{ name := "", typeText := "nothing" }]
  mutability := .view

def constructorAgain : Declaration where
  kind := .constructor
  inputs := [{ name := "cap", typeText := "uint8[4]" }]

/-- The function again and another constructor add a report each to the exchange. -/
theorem repeat_leaves_report_exchange :
    ∃ b submitRest constructorRest, exchangeBindings = .ok b ∧
      compileDeclarations { callAndSend := true } "Exchange" ⟨["market"]⟩
          (exchange.take 3 ++ submitAgain :: exchange.drop 3) (some "6000") =
        ⟨.duplicateDeclaration "function `submit`" "submit((address,uint256[2])[],bytes32)" ::
          submitRest, .ok b⟩ ∧
      compileDeclarations { callAndSend := true } "Exchange" ⟨["market"]⟩
          (exchange.take 3 ++ constructorAgain :: exchange.drop 3) (some "6000") =
        ⟨.duplicateDeclaration "constructor" "constructor(uint8[4])" :: constructorRest,
          .ok b⟩ := by
  obtain ⟨b, hb, _⟩ := exchangeBindings_ok
  have hsplit : (compileDeclarations { callAndSend := true } "Exchange" ⟨["market"]⟩
      (exchange.take 3 ++ exchange.drop 3) (some "6000")).result = .ok b := hb
  have hnone : repeatReports [] (exchange.take 3) = [] := by decide +kernel
  have hsubmit : submitAgain.spelling = "submit((address,uint256[2])[],bytes32)" := by
    decide +kernel
  have hconstructor : constructorAgain.spelling = "constructor(uint8[4])" := by decide +kernel
  have hsame : exchange[1].sharesSignature submitAgain = true := by decide +kernel
  have hvalid : ∀ p ∈ constructorAgain.inputs, p.Valid := by
    obtain ⟨types, ht, _⟩ : ∃ types,
        Parameter.canonicals "" constructorAgain.inputs = .ok types ∧ types = ["uint8[4]"] :=
      ok_of_view (by decide +kernel)
    exact canonicals_ok_iff.mp ⟨types, ht⟩
  have hsubmitAt : exchange[1] ∈ exchange.take 3 := by simp [exchange]
  have hconstructorAt : exchange[0] ∈ exchange.take 3 := by simp [exchange]
  have hfunction : submitAgain.kind = exchange[1].kind := rfl
  have hdeploys : constructorAgain.kind = exchange[0].kind := rfl
  obtain ⟨sig, submitRest, hsig, _, _, hrun⟩ := repeat_leaves_report hsplit hsubmitAt hfunction
    (fun _ => Declaration.sharesSignature_iff.mp hsame) (fun h => by cases h)
  obtain ⟨sig', constructorRest, hsig', _, _, hrun'⟩ :=
    repeat_leaves_report hsplit hconstructorAt hdeploys (fun h => by cases h) (fun _ => hvalid)
  obtain rfl := hsig.spelling_eq
  obtain rfl := hsig'.spelling_eq
  rw [hnone, hsubmit] at hrun
  rw [hnone, hconstructor] at hrun'
  exact ⟨b, _, _, hb, hrun, hrun'⟩

end Exchange

end AbiBindings
