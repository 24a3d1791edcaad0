import AbiBindings.Proofs.Acceptance
import AbiBindings.Proofs.AsciiNames
import AbiBindings.Proofs.CoinedBindings
import AbiBindings.Proofs.TypeGrammar

namespace AbiBindings

mutual

/-- The texts of a parameter that names are made of, down to its innermost parts. -/
def Parameter.nameTexts : Parameter → List String
  | ⟨name, _, internalType, components, _⟩ =>
    name :: (internalType.toList ++ Parameter.allNameTexts components)

def Parameter.allNameTexts : List Parameter → List String
  | [] => []
  | p :: ps => p.nameTexts ++ Parameter.allNameTexts ps

end

def Declaration.nameTexts (d : Declaration) : List String :=
  d.name.toList ++ (Parameter.allNameTexts d.inputs ++ Parameter.allNameTexts d.outputs)

section Texts

variable {p : Parameter} {ps : List Parameter} {cs : List Char} {c : Char}

theorem Parameter.nameTexts_eq (p : Parameter) :
    p.nameTexts = p.name :: (p.internalType.toList ++ Parameter.allNameTexts p.components) := by
  cases p
  rfl

theorem Parameter.name_mem_texts (hp : p ∈ ps) : p.name ∈ Parameter.allNameTexts ps := by
  induction ps with
  | nil => cases hp
  | cons q ps ih =>
    simp only [Parameter.allNameTexts, List.mem_append]
    rcases List.mem_cons.mp hp with rfl | hp
    · exact .inl (by simp [Parameter.nameTexts_eq])
    · exact .inr (ih hp)

theorem mem_of_mem_trimChars (h : c ∈ Text.trimChars cs) : c ∈ cs := by
  have hend := (List.dropWhile_suffix _).mem (List.mem_reverse.mp h)
  exact (List.dropWhile_suffix _).mem (List.mem_reverse.mp hend)

theorem mem_of_mem_lastSegment (h : c ∈ lastSegment cs) : c ∈ cs :=
  List.mem_reverse.mp ((List.takeWhile_prefix _).mem (List.mem_reverse.mp h))

/-- A struct's name stands in the internal type. -/
theorem internalStructName_mem {internalType name : String}
    (h : internalStructName internalType = some name) (hc : c ∈ name.toList) :
    c ∈ internalType.toList := by
  simp only [internalStructName] at h
  split at h
  · cases h
  · rename_i rest hrest
    split at h
    · cases h
    · cases h
      rw [String.toList_ofList] at hc
      have htrimmed := (List.takeWhile_prefix _).mem (mem_of_mem_lastSegment hc)
      rw [Text.afterPrefix_eq_some.mp hrest]
      exact List.mem_append_right _ (mem_of_mem_trimChars htrimmed)

theorem Parameter.nameHint_ascii (hp : ∀ text ∈ p.nameTexts, IsAscii text) :
    ∀ hint ∈ p.nameHint, IsAscii hint := by
  intro hint hh
  simp only [nameTexts_eq, List.forall_mem_cons, List.forall_mem_append, Option.mem_toList] at hp
  rcases Option.or_eq_some_iff.mp hh with hstruct | ⟨_, hname⟩
  · obtain ⟨text, htext, hs⟩ := Option.bind_eq_some_iff.mp hstruct
    exact fun c hc => hp.2.1 text htext c (internalStructName_mem hs hc)
  · split at hname
    · cases hname
    · cases hname
      exact hp.1

theorem Declaration.namesIn_ascii {d : Declaration} (hd : ∀ text ∈ d.nameTexts, IsAscii text) :
    d.NamesIn IsAscii := by
  simp only [nameTexts, List.forall_mem_append, Option.mem_toList] at hd
  obtain ⟨hname, hinputs, houtputs⟩ := hd
  refine ⟨?_, fun p hp => hinputs _ (Parameter.name_mem_texts hp),
    fun p hp => houtputs _ (Parameter.name_mem_texts hp)⟩
  unfold nameOrKind
  split
  · rename_i name hn
    exact hname name hn
  · split <;> decide

end Texts

section Shapes

variable {Raw : String → Prop} {table table' : ShapeTable}

/-- A shape takes its names from where it is mentioned. -/
theorem ShapeTable.intern_namesIn {hint : Option String} {fields : List (String × Resolved)}
    {origin : String} {id : StructId} (ht : ∀ shape ∈ table, shape.NamesIn Raw)
    (hh : ∀ name ∈ hint, Raw name) (hf : ∀ f ∈ fields, Raw f.1)
    (h : table.intern hint fields origin = (id, table')) : ∀ shape ∈ table', shape.NamesIn Raw := by
  simp only [intern] at h
  split at h
  · cases h
    intro shape hshape
    obtain ⟨i, hi⟩ := List.mem_iff_getElem?.mp hshape
    rw [List.getElem?_modify] at hi
    obtain ⟨old, hold, rfl⟩ := Option.map_eq_some_iff.mp hi
    obtain ⟨hhint, hfields⟩ := ht old (List.mem_of_getElem? hold)
    split
    · refine ⟨?_, hfields⟩
      intro name hname
      rcases Option.or_eq_some_iff.mp hname with hname | ⟨_, hname⟩
      · exact hhint name hname
      · exact hh name hname
    · exact ⟨hhint, hfields⟩
  · cases h
    exact List.forall_mem_append.mpr ⟨ht, by simpa using ⟨hh, hf⟩⟩

end Shapes

section Resolving

variable {mode : Representation} {origin : String}

mutual

/-- Shapes take their hints and the names of their parts from the parameter. -/
theorem resolveParameter_ascii {g g' : Gathered} {r : Resolved} :
    (p : Parameter) → (∀ text ∈ p.nameTexts, IsAscii text) →
      (∀ shape ∈ g.shapes, shape.NamesIn IsAscii) → resolveParameter mode origin g p = .ok (r, g') →
      ∀ shape ∈ g'.shapes, shape.NamesIn IsAscii
  | ⟨name, typeText, internalType, components, indexed⟩, hp, hg, h => by
    rcases resolveParameter_cases h with
      ⟨e, dims, _, hplain⟩ | ⟨dims, types, g₁, id, shapes, _, hc, hi, _, rfl⟩
    · rw [Gathered.shapes_resolvePlain hplain]
      exact hg
    · have hparts := hp
      simp only [Parameter.nameTexts, List.forall_mem_cons, List.forall_mem_append] at hparts
      have hg₁ := resolveParameters_ascii components hparts.2.2 hg hc
      refine ShapeTable.intern_namesIn hg₁ (Parameter.nameHint_ascii hp) ?_ hi
      intro f hf
      obtain ⟨component, hm, hname⟩ := List.mem_map.mp (List.of_mem_zip hf).1
      exact hname ▸ hparts.2.2 _ (Parameter.name_mem_texts hm)

theorem resolveParameters_ascii {g g' : Gathered} {rs : List Resolved} :
    (ps : List Parameter) → (∀ text ∈ Parameter.allNameTexts ps, IsAscii text) →
      (∀ shape ∈ g.shapes, shape.NamesIn IsAscii) →
      resolveParameters mode origin g ps = .ok (rs, g') →
      ∀ shape ∈ g'.shapes, shape.NamesIn IsAscii
  | [], _, hg, h => by
    cases h
    exact hg
  | p :: ps, hp, hg, h => by
    simp only [Parameter.allNameTexts, List.forall_mem_append] at hp
    obtain ⟨r, g₁, rest, hr, hrest, _⟩ := resolveParameters_cons h
    exact resolveParameters_ascii ps hp.2 (resolveParameter_ascii p hp.1 hg hr) hrest

end

variable {d : Declaration} {ds : List Declaration} {g g' : Gathered} {r : ResolvedDeclaration}
variable {rs : List ResolvedDeclaration} {seen : List (Kind × String)}

theorem Declaration.resolve_ascii {sig : String} (hd : ∀ text ∈ d.nameTexts, IsAscii text)
    (hg : ∀ shape ∈ g.shapes, shape.NamesIn IsAscii) (h : d.resolve mode g sig = .ok (r, g')) :
    ∀ shape ∈ g'.shapes, shape.NamesIn IsAscii := by
  obtain ⟨inputs, g₁, outputs, hi, ho, _⟩ := resolve_ok h
  simp only [nameTexts, List.forall_mem_append] at hd
  have hresults : ∀ text ∈ Parameter.allNameTexts d.results, IsAscii text := by
    unfold results
    split
    · exact hd.2.2
    · simp [Parameter.allNameTexts]
  exact resolveParameters_ascii _ hresults (resolveParameters_ascii _ hd.2.1 hg hi) ho

/-- ASCII names in declarations make shapes with ASCII names. -/
theorem resolveDeclarations_ascii (hds : ∀ d ∈ ds, ∀ text ∈ d.nameTexts, IsAscii text)
    (hg : ∀ shape ∈ g.shapes, shape.NamesIn IsAscii)
    (h : (resolveDeclarations mode seen g ds).2 = .ok (rs, g')) :
    ∀ shape ∈ g'.shapes, shape.NamesIn IsAscii := by
  induction ds generalizing seen g rs with
  | nil =>
    cases h
    exact hg
  | cons d ds ih =>
    obtain ⟨hd, hrest⟩ := List.forall_mem_cons.mp hds
    obtain ⟨sig, _, ⟨_, h⟩ | ⟨_, r, g₁, rest, hr, h, _⟩⟩ := resolveDeclarations_cons h
    · exact ih hrest hg h
    · exact ih hrest (Declaration.resolve_ascii hd hg hr) h

end Resolving

/-- Declarations whose texts are ASCII make identifiers of all names in the generated code. -/
theorem compileDeclarations_identifiers {options : Options} {contractName : String}
    {modulePath : ModulePath} {ds : List Declaration} {bytecode : Option String}
    {b : ContractBindings}
    (h : (compileDeclarations options contractName modulePath ds bytecode).result = .ok b)
    (hc : IsAscii contractName) (hds : ∀ d ∈ ds, ∀ text ∈ d.nameTexts, IsAscii text) :
    ∀ name ∈ b.identifiers, IsIdentifier name := by
  obtain ⟨rs, g, hcompiled, hbuilt, _⟩ := compileDeclarations_run h
  have hshapes : ∀ shape ∈ g.shapes, shape.NamesIn IsAscii :=
    resolveDeclarations_ascii hds (by simp [Gathered.empty]) hcompiled.resolved
  have hnames : ∀ r ∈ rs, r.declaration.NamesIn IsAscii := fun r hr =>
    Declaration.namesIn_ascii (hds _ (resolveDeclarations_mem hcompiled.resolved hr))
  intro name hname
  exact (buildBindings_coined hbuilt hc hshapes hnames name hname).isIdentifier fun _ hraw => hraw

/-- The name of the contract, and all texts of its interface that names are made of, are ASCII. -/
structure Source.AsciiNames (source : Source) : Prop where
  contract : IsAscii source.name
  declared : ∀ interface, Interface.parse source.interface = .ok interface →
    ∀ d ∈ interface.declarations, ∀ text ∈ d.nameTexts, IsAscii text

/-- Whatever ASCII names an interface has, every name in the generated code is an identifier. -/
theorem names_are_identifiers {options : Options} {source : Source} {b : ContractBindings}
    (h : (compile options source).result = .ok b) (hs : source.AsciiNames) :
    ∀ name ∈ b.identifiers, IsIdentifier name := by
  simp only [compile] at h
  split at h
  · cases h
  · split at h
    · cases h
    · rename_i interface hparse
      exact compileDeclarations_identifiers h hs.contract (hs.declared interface hparse)

section Hostile

/-- A function and an event none of whose names is an identifier as it stands. The entries are
positional records. -/
def hostile : Source where
  name := "$"
  package := "bindings"
  bytecode := some "6000"
  interface := "[[\"function\",\"self\",[[\"type\",\"bool\"]]],"
    ++ "[\"event\",\"_\",[[\"1\",\"tuple\",\"struct Self\",[[\"\",\"bool\"]]]]]]"

theorem hostile_ok : ∃ b, (compile { callAndSend := true } hostile).result = .ok b ∧
    b.identifiers =
      ["contract", "Contract", "Self_", "field0", "encode_self_", "call_self_", "self_", "type_",
        "Event", "log_events", "_1", "provider"] :=
  ok_of_view (by decide +kernel)

theorem hostile_ascii : hostile.AsciiNames := by
  have htexts : ((Interface.parse hostile.interface).toOption.all fun interface =>
      interface.declarations.all fun d => d.nameTexts.all fun text => decide (IsAscii text)) =
        true := by
    decide +kernel
  refine ⟨by decide, fun interface hparse d hd text htext => ?_⟩
  rw [hparse, Except.toOption, Option.all_some, List.all_eq_true] at htexts
  exact of_decide_eq_true (List.all_eq_true.mp (htexts d hd) text htext)

theorem names_are_identifiers_hostile : ∃ b,
    (compile { callAndSend := true } hostile).result = .ok b ∧
      ∀ name ∈ b.identifiers, IsIdentifier name := by
  obtain ⟨b, hb, _⟩ := hostile_ok
  exact ⟨b, hb, names_are_identifiers hb hostile_ascii⟩

end Hostile

end AbiBindings
