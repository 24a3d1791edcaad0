import AbiBindings.Proofs.DeclaredTuples
import AbiBindings.Proofs.Reorderings
import AbiBindings.Proofs.StructNames

namespace AbiBindings

/-- Hints that keep the shapes of tuples apart. Every shape has a hint. A hint makes a type name that
is neither the contract's nor reserved, and that no hint of another shape makes. -/
structure HintsApart (contractName : String) (tuples : List Parameter) : Prop where
  hinted : ∀ q ∈ tuples, ∃ q' ∈ tuples, SameParts q.components q'.components ∧
    ∃ hint, q'.nameHint = some hint
  named : ∀ q ∈ tuples, ∀ hint, q.nameHint = some hint → Naming.typeIdent hint "" ≠ ""
  free : ∀ q ∈ tuples, ∀ hint, q.nameHint = some hint →
    Naming.typeIdent hint "" ∉ (nameContract contractName).1 :: reservedTypeNames
  apart : ∀ q ∈ tuples, ∀ q' ∈ tuples, ∀ hint hint', q.nameHint = some hint →
    q'.nameHint = some hint' → Naming.typeIdent hint "" = Naming.typeIdent hint' "" →
    SameParts q.components q'.components

/-- Whether hints are apart does not depend on the order of tuples. -/
theorem HintsApart.perm {contractName : String} {tuples tuples' : List Parameter}
    (h : HintsApart contractName tuples) (hp : tuples.Perm tuples') :
    HintsApart contractName tuples' := by
  have hback : ∀ q, q ∈ tuples' → q ∈ tuples := fun q hq => hp.mem_iff.mpr hq
  refine ⟨?_, fun q hq => h.named q (hback q hq), fun q hq => h.free q (hback q hq),
    fun q hq q' hq' => h.apart q (hback q hq) q' (hback q' hq')⟩
  intro q hq
  obtain ⟨q', hq', hhint⟩ := h.hinted q (hback q hq)
  exact ⟨q', hp.mem_iff.mp hq', hhint⟩

/-- A raw name that makes an identifier of its own has no need of another. -/
theorem Naming.typeIdent_of_ne {raw : String} (h : typeIdent raw "" ≠ "") (fallback : String) :
    typeIdent raw fallback = typeIdent raw "" := by
  unfold typeIdent at h ⊢
  split <;> simp_all

section Wanted

variable {mode : Representation} {table : ShapeTable} {tuples : List Parameter} {q : Parameter}
variable {fields : List (String × Resolved)} {id : StructId} {contractName : String}

/-- With hints that keep shapes apart, a shape wants the name that its first hint makes. -/
theorem HintsApart.wants (ha : HintsApart contractName tuples) (h : table.MadeOf mode tuples)
    (hq : q ∈ tuples) (hl : Located mode table.keys q fields id) (hid : id < table.length) :
    ∃ hint, FirstHinted tuples q hint ∧
      table.wantedNames[id]? = some (Naming.typeIdent hint "") := by
  have hs : table[id]? = some table[id] := List.getElem?_eq_getElem hid
  obtain ⟨hint, hown, hfirst⟩ := h.hinted hl hs (ha.hinted q hq)
  refine ⟨hint, hfirst, ?_⟩
  obtain ⟨q', hq', _, hhint⟩ := hfirst.source
  have hne := ha.named q' hq' hint hhint
  rw [ShapeTable.wantedNames, List.getElem?_mapIdx, hs, Option.map_some, Shape.wanted, hown]
  exact congrArg some (Naming.typeIdent_of_ne hne _)

/-- No two shapes want one name. -/
theorem HintsApart.wanted_once (ha : HintsApart contractName tuples)
    (h : table.MadeOf mode tuples) {i j : StructId} {w : String}
    (hi : table.wantedNames[i]? = some w) (hj : table.wantedNames[j]? = some w) : i = j := by
  have htuple : ∀ k, table.wantedNames[k]? = some w → ∃ q ∈ tuples, ∃ fields hint,
      Located mode table.keys q fields k ∧ FirstHinted tuples q hint ∧
        Naming.typeIdent hint "" = w := by
    intro k hk
    obtain ⟨hlt, _⟩ := List.getElem?_eq_some_iff.mp hk
    have hlt : k < table.length := by simpa [ShapeTable.wantedNames] using hlt
    obtain ⟨q, hq, fields, hl⟩ := h.tuple (List.getElem?_eq_getElem hlt)
    obtain ⟨hint, hfirst, hw⟩ := ha.wants h hq hl hlt
    exact ⟨q, hq, fields, hint, hl, hfirst, Option.some.inj (hw.symm.trans hk)⟩
  obtain ⟨q, hq, fields, hint, hl, hfirst, hw⟩ := htuple i hi
  obtain ⟨q', hq', fields', hint', hl', hfirst', hw'⟩ := htuple j hj
  obtain ⟨p, hp, hsame, hhint⟩ := hfirst.source
  obtain ⟨p', hp', hsame', hhint'⟩ := hfirst'.source
  have hpp : SameParts p.components p'.components :=
    ha.apart p hp p' hp' hint hint' hhint hhint' (hw.trans hw'.symm)
  -- What has the same parts as either tuple links the two.
  apply (hl.eq_iff hl').mpr
  obtain ⟨parts, hparts, _⟩ := hl'
  apply sameParts_of_parts hparts
  rw [hsame.parts_eq, hpp.parts_eq, ← hsame'.parts_eq, hparts]

/-- So every shape has the name that its first hint makes. -/
theorem HintsApart.names (ha : HintsApart contractName tuples) (h : table.MadeOf mode tuples)
    {scope : Scope} {names : List String} (hsettled : NamesSettled scope table.wantedNames names)
    (hscope : scope.taken = (nameContract contractName).1 :: reservedTypeNames)
    (hq : q ∈ tuples) (hl : Located mode table.keys q fields id) (hid : id < table.length) :
    ∃ hint, FirstHinted tuples q hint ∧ names[id]? = some (Naming.typeIdent hint "") := by
  obtain ⟨hint, hfirst, hw⟩ := ha.wants h hq hl hid
  refine ⟨hint, hfirst, ?_⟩
  obtain ⟨name, hn⟩ : ∃ name, names[id]? = some name := by
    refine ⟨_, List.getElem?_eq_getElem ?_⟩
    rw [hsettled.length]
    exact (List.getElem?_eq_some_iff.mp hw).1
  rw [hn]
  refine congrArg some ((hsettled.kept id _ _ hw hn).mpr ⟨?_, ?_⟩)
  · obtain ⟨q', hq', _, hhint⟩ := hfirst.source
    rw [hscope]
    exact ha.free q' hq' hint hhint
  · intro hm
    obtain ⟨j, hj, he⟩ := List.mem_take_iff_getElem.mp hm
    have hjw : table.wantedNames[j]? = some (Naming.typeIdent hint "") := by
      rw [List.getElem?_eq_getElem (by omega), he]
    have hji : (j : Nat) = id := ha.wanted_once h hjw hw
    omega

end Wanted

def ContractBindings.StructOf (b : ContractBindings) (mode : Representation) (q : Parameter)
    (d : StructDefinition) : Prop :=
  ∃ fields id, Located mode (structKeys b.structs) q fields id ∧ b.structs[id]? = some d

/-- A tuple has one struct. -/
theorem ContractBindings.StructOf.unique {b : ContractBindings} {mode : Representation}
    {q : Parameter} {d d' : StructDefinition} (h : b.StructOf mode q d)
    (h' : b.StructOf mode q d') : d = d' := by
  obtain ⟨fields, id, ⟨parts, hp, hf, hi⟩, hd⟩ := h
  obtain ⟨fields', id', ⟨parts', hp', hf', hi'⟩, hd'⟩ := h'
  cases hp.symm.trans hp'
  cases hf.symm.trans hf'
  cases hi.symm.trans hi'
  exact Option.some.inj (hd.symm.trans hd')

/-- The structs are those of the tuples, each under the name that the first hint for it makes. -/
structure ContractBindings.NamedByFirstHint (b : ContractBindings) (mode : Representation)
    (tuples : List Parameter) : Prop where
  covered : ∀ d ∈ b.structs, ∃ q ∈ tuples, b.StructOf mode q d
  named : ∀ q ∈ tuples, ∃ d hint, b.StructOf mode q d ∧ FirstHinted tuples q hint ∧
    d.name = Naming.typeIdent hint ""

/-- All hints for the shape of a tuple make one name. -/
def HintsAgree (tuples : List Parameter) (q : Parameter) : Prop :=
  ∀ q₁ ∈ tuples, ∀ q₂ ∈ tuples, SameParts q.components q₁.components →
    SameParts q.components q₂.components → ∀ hint₁ hint₂, q₁.nameHint = some hint₁ →
    q₂.nameHint = some hint₂ → Naming.typeIdent hint₁ "" = Naming.typeIdent hint₂ ""

section Orders

variable {options : Options} {contractName : String} {modulePath : ModulePath}
variable {ds ds' : List Declaration} {bytecode : Option String} {b b' : ContractBindings}

theorem nameContract_taken {typeName : String} {diags : List Diagnostic} {scope : Scope}
    (h : nameContract contractName = (typeName, diags, scope)) :
    scope.taken = typeName :: reservedTypeNames := by
  simp only [nameContract, Prod.mk.injEq] at h
  obtain ⟨hscope, _⟩ := Scope.claimNumbered_cases (Prod.ext h.1 h.2.2)
  rw [hscope]
  rfl

/-- As nothing is left out, the structs are those of all tuples declared. -/
theorem NoRepeats.namedByFirstHint (hn : NoRepeats ds)
    (ha : HintsApart contractName (declaredTuples ds))
    (h : (compileDeclarations options contractName modulePath ds bytecode).result = .ok b) :
    b.NamedByFirstHint options.representation (declaredTuples ds) := by
  obtain ⟨rs, g, hc, hbuild, _⟩ := compileDeclarations_run h
  obtain ⟨⟨stages⟩, _⟩ := buildBindings_stages hbuild
  obtain ⟨diags, hhandle⟩ := stages.handle
  obtain ⟨_, hstructs⟩ := stages.structs
  have hkept : rs.map (·.declaration) = ds := by
    rw [resolveDeclarations_keeps SeenIn.nil hc.resolved]
    exact hn.kept_eq
  have hmade : g.shapes.MadeOf options.representation (declaredTuples ds) := by
    have hrun := resolveDeclarations_interns Gathered.sound_empty hc.lossless hc.resolved
    rw [hkept] at hrun
    exact .of_interns hrun
  have hscope : stages.handleTypes.taken = (nameContract contractName).1 :: reservedTypeNames := by
    rw [nameContract_taken hhandle, hhandle]
  have hsettled := ShapeTable.name_settled hstructs
  have hlen : b.structs.length = g.shapes.length := by
    simpa using congrArg List.length hc.built.bodies
  refine ⟨?_, ?_⟩
  · intro d hd
    obtain ⟨id, hid⟩ := List.getElem?_of_mem hd
    have hlt : id < g.shapes.length := hlen ▸ (List.getElem?_eq_some_iff.mp hid).1
    obtain ⟨q, hq, fields, hl⟩ := hmade.tuple (List.getElem?_eq_getElem hlt)
    exact ⟨q, hq, fields, id, hc.structKeys_eq ▸ hl, hid⟩
  · intro q hq
    obtain ⟨fields, id, s, hl, hs⟩ := hmade.located hq
    have hlt : id < g.shapes.length := (List.getElem?_eq_some_iff.mp hs).1
    obtain ⟨hint, hfirst, hname⟩ := ha.names hmade hsettled hscope hq hl hlt
    rw [List.getElem?_map] at hname
    obtain ⟨d, hd, hname⟩ := Option.map_eq_some_iff.mp hname
    exact ⟨d, hint, ⟨fields, id, hc.structKeys_eq ▸ hl, hd⟩, hfirst, hname⟩

end Orders

/-- Bindings come about for declarations that do not repeat each other, in whatever order. When hints
keep the shapes apart, a shape has the name that its first hint in the order makes. So orders agree on
the names of those shapes whose hints do. -/
theorem struct_names_by_first_hint (options : Options) (contractName : String)
    (modulePath : ModulePath) (ds ds' : List Declaration) (bytecode : Option String)
    (b : ContractBindings) (hn : NoRepeats ds) (hp : ds.Perm ds')
    (h : (compileDeclarations options contractName modulePath ds bytecode).result = .ok b) :
    ∃ b', (compileDeclarations options contractName modulePath ds' bytecode).result = .ok b' ∧
      (HintsApart contractName (declaredTuples ds) →
        b.NamedByFirstHint options.representation (declaredTuples ds) ∧
        b'.NamedByFirstHint options.representation (declaredTuples ds') ∧
        ∀ q ∈ declaredTuples ds, HintsAgree (declaredTuples ds) q →
          ∀ d d', b.StructOf options.representation q d →
            b'.StructOf options.representation q d' → d'.name = d.name) := by
  obtain ⟨b', h'⟩ := hn.compiles_perm hp ⟨b, h⟩
  refine ⟨b', h', fun ha => ?_⟩
  have htuples : (declaredTuples ds).Perm (declaredTuples ds') := hp.flatMap_right _
  have hnamed := hn.namedByFirstHint ha h
  have hnamed' := (hn.perm hp).namedByFirstHint (ha.perm htuples) h'
  refine ⟨hnamed, hnamed', ?_⟩
  intro q hq hagree d d' hd hd'
  obtain ⟨d₁, hint₁, hd₁, hfirst₁, hname₁⟩ := hnamed.named q hq
  obtain ⟨d₂, hint₂, hd₂, hfirst₂, hname₂⟩ := hnamed'.named q (htuples.mem_iff.mp hq)
  obtain ⟨q₁, hq₁, hsame₁, hhint₁⟩ := hfirst₁.source
  obtain ⟨q₂, hq₂, hsame₂, hhint₂⟩ := hfirst₂.source
  have hq₂ := htuples.mem_iff.mpr hq₂
  rw [hd.unique hd₁, hd'.unique hd₂, hname₁, hname₂]
  exact hagree q₂ hq₂ q₁ hq₁ hsame₂ hsame₁ hint₂ hint₁ hhint₂ hhint₁

section Drawing

def pointParts : List Parameter :=
  [{ name := "x", typeText := "uint256" }, { name := "y", typeText := "uint256" }]

def pointParameter (name : String) (internalType : Option String) : Parameter where
  name
  typeText := "tuple"
  internalType
  components := pointParts

def functionOf (name : String) (argument : Parameter) : Declaration where
  kind := .function
  name := some name
  inputs := [argument]

/-- The name of a parameter hints at one name for points, the internal type at another. -/
def sketch : List Declaration :=
  [functionOf "plot" (pointParameter "origin" none),
    functionOf "draw" (pointParameter "target" (some "struct Point"))]

def lineParts : List Parameter :=
  [pointParameter "from" (some "struct Geometry.Point"), pointParameter "point" none]

/-- Points come bare and as the ends of a line, and whatever hints at them does so alike. -/
def drawing : List Declaration :=
  [functionOf "plot" (pointParameter "point" none),
    functionOf "stroke" { name := "line", typeText := "tuple", components := lineParts },
    functionOf "dot" (pointParameter "center" (some "struct Point"))]

theorem sameParts_self {ps : List Parameter} (h : (Parameter.parts ps).isSome = true) :
    SameParts ps ps := by
  obtain ⟨parts, hp⟩ := Option.isSome_iff_exists.mp h
  exact sameParts_of_parts hp _ hp

theorem HintsApart.of_all {contractName : String} {tuples : List Parameter}
    (hall : ∀ q ∈ tuples, SameParts q.components q.components ∧ ∃ hint,
      q.nameHint = some hint ∧ Naming.typeIdent hint "" ≠ "" ∧
        Naming.typeIdent hint "" ∉ (nameContract contractName).1 :: reservedTypeNames)
    (hapart : ∀ q ∈ tuples, ∀ q' ∈ tuples, ∀ hint hint', q.nameHint = some hint →
      q'.nameHint = some hint' → Naming.typeIdent hint "" = Naming.typeIdent hint' "" →
      SameParts q.components q'.components) : HintsApart contractName tuples := by
  refine ⟨?_, ?_, ?_, hapart⟩
  · intro q hq
    obtain ⟨hself, hint, hhint, _⟩ := hall q hq
    exact ⟨q, hq, hself, hint, hhint⟩
  · intro q hq hint hhint
    obtain ⟨_, hint', hhint', hne, _⟩ := hall q hq
    cases hhint.symm.trans hhint'
    exact hne
  · intro q hq hint hhint
    obtain ⟨_, hint', hhint', _, hfree⟩ := hall q hq
    cases hhint.symm.trans hhint'
    exact hfree

/-- The names that the hints of points and of lines make. -/
theorem drawing_hints : ∀ q ∈ declaredTuples drawing, ∃ hint, q.nameHint = some hint ∧
    (q.components = pointParts ∧ Naming.typeIdent hint "" = "Point" ∨
      q.components = lineParts ∧ Naming.typeIdent hint "" = "Line") := by
  have hall : declaredTuples drawing =
      [pointParameter "point" none, pointParameter "from" (some "struct Geometry.Point"),
        pointParameter "point" none,
        { name := "line", typeText := "tuple", components := lineParts },
        pointParameter "center" (some "struct Point")] := by rfl
  have hpoint : Naming.typeIdent "Point" "" = "Point" := by decide +kernel
  have hpoint' : Naming.typeIdent "point" "" = "Point" := by decide +kernel
  have hline : Naming.typeIdent "line" "" = "Line" := by decide +kernel
  intro q hq
  simp only [hall, List.mem_cons, List.not_mem_nil, or_false] at hq
  rcases hq with rfl | rfl | rfl | rfl | rfl
  · exact ⟨"point", rfl, .inl ⟨rfl, hpoint'⟩⟩
  · exact ⟨"Point", rfl, .inl ⟨rfl, hpoint⟩⟩
  · exact ⟨"point", rfl, .inl ⟨rfl, hpoint'⟩⟩
  · exact ⟨"line", rfl, .inr ⟨rfl, hline⟩⟩
  · exact ⟨"Point", rfl, .inl ⟨rfl, hpoint⟩⟩

theorem drawing_apart : HintsApart "Canvas" (declaredTuples drawing) := by
  have hpoints : SameParts pointParts pointParts := sameParts_self rfl
  have hlines : SameParts lineParts lineParts := sameParts_self rfl
  apply HintsApart.of_all
  · intro q hq
    obtain ⟨hint, hhint, ⟨hparts, hname⟩ | ⟨hparts, hname⟩⟩ := drawing_hints q hq
    · refine ⟨hparts ▸ hpoints, hint, hhint, ?_⟩
      rw [hname]
      decide +kernel
    · refine ⟨hparts ▸ hlines, hint, hhint, ?_⟩
      rw [hname]
      decide +kernel
  · intro q hq q' hq' hint hint' hhint hhint' he
    obtain ⟨_, h, hcases⟩ := drawing_hints q hq
    obtain ⟨_, h', hcases'⟩ := drawing_hints q' hq'
    cases hhint.symm.trans h
    cases hhint'.symm.trans h'
    have hnames : "Point" ≠ "Line" := by decide
    rcases hcases with ⟨hparts, hname⟩ | ⟨hparts, hname⟩
    all_goals rcases hcases' with ⟨hparts', hname'⟩ | ⟨hparts', hname'⟩
    all_goals rw [hname, hname'] at he
    · exact hparts ▸ hparts' ▸ hpoints
    · exact absurd he hnames
    · exact absurd he.symm hnames
    · exact hparts ▸ hparts' ▸ hlines

theorem drawing_agrees (q : Parameter) : HintsAgree (declaredTuples drawing) q := by
  have hne : Parameter.parts pointParts ≠ Parameter.parts lineParts := by
    intro he
    have hnames := congrArg (Option.map fun parts => parts.map (·.1)) he
    revert hnames
    decide +kernel
  intro q₁ hq₁ q₂ hq₂ hsame₁ hsame₂ hint₁ hint₂ hhint₁ hhint₂
  have hparts := hsame₁.parts_eq.symm.trans hsame₂.parts_eq
  obtain ⟨_, h₁, hcases₁⟩ := drawing_hints q₁ hq₁
  obtain ⟨_, h₂, hcases₂⟩ := drawing_hints q₂ hq₂
  cases hhint₁.symm.trans h₁
  cases hhint₂.symm.trans h₂
  rcases hcases₁ with ⟨hparts₁, hname₁⟩ | ⟨hparts₁, hname₁⟩
  all_goals rcases hcases₂ with ⟨hparts₂, hname₂⟩ | ⟨hparts₂, hname₂⟩
  all_goals rw [hparts₁, hparts₂] at hparts
  · exact hname₁.trans hname₂.symm
  · exact absurd hparts hne
  · exact absurd hparts.symm hne
  · exact hname₁.trans hname₂.symm

/-- Drawings have two shapes, and either order of the declarations names them alike. -/
theorem struct_names_by_first_hint_drawing : ∃ b b',
    (compileDeclarations {} "Canvas" ⟨["art"]⟩ drawing none).result = .ok b ∧
    (compileDeclarations {} "Canvas" ⟨["art"]⟩ drawing.reverse none).result = .ok b' ∧
    b.structs.map (·.name) = ["Point", "Line"] ∧
    b.NamedByFirstHint .precise (declaredTuples drawing) ∧
    b'.NamedByFirstHint .precise (declaredTuples drawing.reverse) ∧
    ∀ q ∈ declaredTuples drawing, ∀ d d', b.StructOf .precise q d → b'.StructOf .precise q d' →
      d'.name = d.name := by
  obtain ⟨b, hb, hnames⟩ : ∃ b,
      (compileDeclarations {} "Canvas" ⟨["art"]⟩ drawing none).result = .ok b ∧
        b.structs.map (·.name) = ["Point", "Line"] := ok_of_view (by decide +kernel)
  have hn : NoRepeats drawing := by decide +kernel
  obtain ⟨b', hb', hnamed⟩ := struct_names_by_first_hint {} "Canvas" ⟨["art"]⟩ drawing
    drawing.reverse none b hn (List.reverse_perm drawing).symm hb
  obtain ⟨hfirst, hfirst', hagree⟩ := hnamed drawing_apart
  exact ⟨b, b', hb, hb', hnames, hfirst, hfirst', fun q hq => hagree q hq (drawing_agrees q)⟩

theorem sketch_apart : HintsApart "Board" (declaredTuples sketch) := by
  have hall : declaredTuples sketch =
    [pointParameter "origin" none, pointParameter "target" (some "struct Point")] := by rfl
  have hpoints : SameParts pointParts pointParts := sameParts_self rfl
  have hparts : ∀ q ∈ declaredTuples sketch, q.components = pointParts := by
    simp [hall, pointParameter]
  rw [hall] at hparts ⊢
  apply HintsApart.of_all
  · intro q hq
    refine ⟨hparts q hq ▸ hpoints, ?_⟩
    simp only [List.mem_cons, List.not_mem_nil, or_false] at hq
    rcases hq with rfl | rfl
    · exact ⟨"origin", rfl, by decide +kernel, by decide +kernel⟩
    · exact ⟨"Point", rfl, by decide +kernel, by decide +kernel⟩
  · intro q hq q' hq' _ _ _ _ _
    rw [hparts q hq, hparts q' hq']
    exact hpoints

/-- The only struct is that of points. -/
theorem structOf_point {b : ContractBindings} {name : String}
    (h : (structKeys b.structs, b.structs.map (·.name)) =
      ([[("x", .elementary (.uint 256)), ("y", .elementary (.uint 256))]], [name])) :
    ∃ d, b.StructOf .precise (pointParameter "origin" none) d ∧ d.name = name := by
  simp only [Prod.mk.injEq] at h
  obtain ⟨hkeys, hnames⟩ := h
  have hfirst : (b.structs.map (·.name))[0]? = some name := by rw [hnames]; rfl
  rw [List.getElem?_map] at hfirst
  obtain ⟨d, hd, hname⟩ := Option.map_eq_some_iff.mp hfirst
  let word : Resolved := ⟨.elementary (.uint 256), .wideUint, false⟩
  refine ⟨d, ⟨[("x", word), ("y", word)], 0, ?_, hd⟩, hname⟩
  rw [hkeys]
  exact ⟨[("x", .elementary (.uint 256)), ("y", .elementary (.uint 256))], rfl, rfl, rfl⟩

/-- Where hints for one shape make different names, the order of the declarations decides. -/
theorem struct_named_by_order_sketch : NoRepeats sketch ∧ sketch.Perm sketch.reverse ∧
    HintsApart "Board" (declaredTuples sketch) ∧ ∃ b b' d d',
      (compileDeclarations {} "Board" ⟨["art"]⟩ sketch none).result = .ok b ∧
      (compileDeclarations {} "Board" ⟨["art"]⟩ sketch.reverse none).result = .ok b' ∧
      b.StructOf .precise (pointParameter "origin" none) d ∧
      b'.StructOf .precise (pointParameter "origin" none) d' ∧
      d.name = "Origin" ∧ d'.name = "Point" := by
  obtain ⟨b, hb, hview⟩ : ∃ b,
      (compileDeclarations {} "Board" ⟨["art"]⟩ sketch none).result = .ok b ∧
        (structKeys b.structs, b.structs.map (·.name)) =
          ([[("x", .elementary (.uint 256)), ("y", .elementary (.uint 256))]], ["Origin"]) :=
    ok_of_view (by decide +kernel)
  obtain ⟨b', hb', hview'⟩ : ∃ b,
      (compileDeclarations {} "Board" ⟨["art"]⟩ sketch.reverse none).result = .ok b ∧
        (structKeys b.structs, b.structs.map (·.name)) =
          ([[("x", .elementary (.uint 256)), ("y", .elementary (.uint 256))]], ["Point"]) :=
    ok_of_view (by decide +kernel)
  obtain ⟨d, hd, hname⟩ := structOf_point hview
  obtain ⟨d', hd', hname'⟩ := structOf_point hview'
  exact ⟨by decide +kernel, (List.reverse_perm sketch).symm, sketch_apart, b, b', d, d', hb, hb',
    hd, hd', hname, hname'⟩

end Drawing

end AbiBindings
