import AbiBindings.Proofs.Compilation
import AbiBindings.Proofs.PageRows

namespace AbiBindings

/-- The bindings of the same contract, which then cannot be deployed. -/
def ContractBindings.undeployed (b : ContractBindings) : ContractBindings :=
  { b with deploy := none }

section Compiling

variable (options : Options) (contractName : String) (modulePath : ModulePath)

theorem bindDeploy_bytecode (ds : List ResolvedDeclaration) (code : String) :
    (bindDeploy ds code).1.bytecode = code := by
  unfold bindDeploy
  split <;> rfl

/-- Deployment is bound last, and nothing else looks at the bytecode. -/
theorem buildBindings_undeployed (shapes : ShapeTable) (ds : List ResolvedDeclaration)
    (code : String) :
    let plain := buildBindings options contractName modulePath shapes ds none
    let deploying := buildBindings options contractName modulePath shapes ds (some code)
    plain.result = deploying.result.map (·.undeployed) ∧
      plain.diagnostics <+: deploying.diagnostics ∧
      ∀ b, deploying.result = .ok b → ∃ helper, b.deploy = some helper ∧ helper.bytecode = code := by
  intro plain deploying
  cases hclaim : claimGroups (.reserving reservedMethodNames) (overloads ds) with
  | error e =>
    simp only [plain, deploying, buildBindings, hclaim]
    exact ⟨rfl, List.prefix_refl _, fun b hb => by cases hb⟩
  | ok claimed =>
    simp only [plain, deploying, buildBindings, hclaim]
    refine ⟨?_, ?_, ?_⟩
    · simp only [Except.map, ContractBindings.undeployed, Option.map_none]
    · rw [Option.map_none, Option.map_none, Option.getD_none, List.append_nil]
      exact List.prefix_append _ _
    · intro b hb
      cases hb
      exact ⟨_, rfl, bindDeploy_bytecode ds code⟩

/-- Bytecode decides on nothing but deployment. -/
theorem compileDeclarations_undeployed (ds : List Declaration) (code : String) :
    let plain := compileDeclarations options contractName modulePath ds none
    let deploying := compileDeclarations options contractName modulePath ds (some code)
    plain.result = deploying.result.map (·.undeployed) ∧
      plain.diagnostics <+: deploying.diagnostics ∧
      ∀ b, deploying.result = .ok b → ∃ helper, b.deploy = some helper ∧ helper.bytecode = code := by
  intro plain deploying
  rcases compileDeclarations_cases options.representation ds with
    ⟨diagnostics, e, hrun⟩ | ⟨diagnostics, rs, g, hrun⟩
  · simp only [plain, deploying, hrun options contractName modulePath _ rfl]
    exact ⟨rfl, List.prefix_refl _, fun b hb => by cases hb⟩
  · obtain ⟨hresult, hprefix, hdeploy⟩ :=
      buildBindings_undeployed options contractName modulePath g.shapes rs code
    simp only [plain, deploying, hrun options contractName modulePath _ rfl]
    exact ⟨hresult, (List.prefix_append_right_inj _).mpr hprefix, hdeploy⟩

end Compiling

namespace Render

section Pages

variable (b : ContractBindings)

/-- What stands between the bytecode and the deploying method. -/
def opening : List Step :=
  records b ++ .blank :: handleStruct b
    ++ .blank :: [.line ("impl<P: rt::Provider> " ++ b.typeName ++ "<P>" ++ " \x7b"), .indent]
    ++ commonMethods

/-- What stands behind the deploying method. -/
def closing : List Step :=
  ownMethods (structName b) b ++ [.dedent, .line "\x7d"] ++ encoders b

/-- Only two stretches of a page look at how the contract is deployed. -/
theorem page_split (deploy : Option DeployHelper) (runtime : String) :
    page { b with deploy } runtime = header b runtime ++ bytecodeConstant deploy ++ opening b
      ++ deploySection (structName b) deploy ++ closing b := by
  rw [page_eq, contract_eq, block]
  simp only [opening, closing, List.append_assoc, List.cons_append, List.nil_append]
  rfl

end Pages

end Render

section Writing

variable {pen : Pen}

theorem Render.opening_pen (b : ContractBindings) : (pen.write (opening b)).2 = pen.indent := by
  have hhandle : Level (.blank :: handleStruct b) := .blank (handleStruct_level b)
  simp only [opening, Pen.write_append, (records_level b).pen_eq, hhandle.pen_eq,
    commonMethods_level.pen_eq]
  rfl

/-- A page is the same with and without a helper for deployment, but for the constant behind the
header and the method in the handle. -/
theorem ContractBindings.render_split (b : ContractBindings) (config : RenderConfig) :
    ∃ head middle tail, ∀ deploy, ContractBindings.render { b with deploy } config =
      head ++ (config.pen.write (Render.bytecodeConstant deploy)).1 ++ middle
        ++ (config.pen.indent.write (Render.deploySection (Render.structName b) deploy)).1
        ++ tail := by
  refine ⟨(config.pen.write (Render.header b config.runtime)).1,
    (config.pen.write (Render.opening b)).1, (config.pen.indent.write (Render.closing b)).1, ?_⟩
  intro deploy
  have hheader := (Render.header_level b config.runtime).pen_eq config.pen
  have hconstant := (Render.bytecodeConstant_level deploy).pen_eq config.pen
  have hsection := (Render.deploySection_level (Render.structName b) deploy).pen_eq config.pen.indent
  simp only [render, Render.page_split, Pen.write_append, hheader, hconstant,
    Render.opening_pen, hsection]

end Writing

/-- Bytecode adds a helper for deployment and nothing else: with and without it the same compilations
fail, and alike. What is said without it is said first with it. Of the page it adds the constant that
holds it and the method that deploys it. -/
theorem deployment_apart (options : Options) (contractName : String) (modulePath : ModulePath)
    (ds : List Declaration) (code : String) :
    let plain := compileDeclarations options contractName modulePath ds none
    let deploying := compileDeclarations options contractName modulePath ds (some code)
    plain.result = deploying.result.map (·.undeployed) ∧
      plain.diagnostics <+: deploying.diagnostics ∧
      ∀ b, deploying.result = .ok b →
        ∃ helper, b.deploy = some helper ∧ helper.bytecode = code ∧
        ∀ config : RenderConfig, ∃ head middle tail,
          b.render config = head
            ++ (config.pen.write (Render.bytecodeConstant (some helper))).1 ++ middle
            ++ (config.pen.indent.write
              (.blank :: Render.deployMethod (Render.structName b) helper)).1 ++ tail ∧
          b.undeployed.render config = head ++ middle ++ tail := by
  intro plain deploying
  obtain ⟨hresult, hprefix, hdeploy⟩ :=
    compileDeclarations_undeployed options contractName modulePath ds code
  refine ⟨hresult, hprefix, ?_⟩
  intro b hb
  obtain ⟨helper, hhelper, hcode⟩ := hdeploy b hb
  refine ⟨helper, hhelper, hcode, ?_⟩
  intro config
  obtain ⟨head, middle, tail, hsplit⟩ := b.render_split config
  have hwith : b.render config = _ := hsplit b.deploy
  have hwithout : b.undeployed.render config = _ := hsplit none
  rw [hhelper] at hwith
  refine ⟨head, middle, tail, hwith, ?_⟩
  simpa only [Render.bytecodeConstant, Render.deploySection, Pen.write, String.append_empty] using
    hwithout

/-- The exchange without its bytecode is the exchange that cannot be deployed, and its page is shorter
by two blocks. -/
theorem deployment_apart_exchange : ∃ b helper, exchangeBindings = .ok b ∧
    b.deploy = some helper ∧
    (compileDeclarations { callAndSend := true } "Exchange" ⟨["market"]⟩ exchange none).result =
      .ok b.undeployed ∧
    ∃ head middle tail,
      b.render {} = head ++ "\n/// Creation bytecode of the contract.\n"
        ++ "pub const BYTECODE: &str = \"6000\";\n" ++ middle
        ++ ((RenderConfig.pen {}).indent.write
          (.blank :: Render.deployMethod (Render.structName b) helper)).1 ++ tail ∧
      b.undeployed.render {} = head ++ middle ++ tail := by
  obtain ⟨b, hb, _⟩ := exchangeBindings_ok
  obtain ⟨hresult, _, hdeploys⟩ :=
    deployment_apart { callAndSend := true } "Exchange" ⟨["market"]⟩ exchange "6000"
  obtain ⟨helper, hhelper, hcode, hpages⟩ := hdeploys b hb
  obtain ⟨head, middle, tail, hwith, hwithout⟩ := hpages {}
  have hconstant : ((RenderConfig.pen {}).write (Render.bytecodeConstant (some helper))).1 =
      "\n/// Creation bytecode of the contract.\n" ++ "pub const BYTECODE: &str = \"6000\";\n" := by
    rw [Render.bytecodeConstant, hcode]
    decide +kernel
  refine ⟨b, helper, hb, hhelper, ?_, head, middle, tail, ?_, hwithout⟩
  · rw [hresult]
    exact congrArg (·.map ContractBindings.undeployed) hb
  · rw [hwith, hconstant, ← String.append_assoc]

end AbiBindings
