import AbiBindings.Proofs.CoinedBindings
import AbiBindings.Proofs.WordNames

namespace AbiBindings

structure StructDefinition.Worded (d : StructDefinition) : Prop where
  name : IsWord d.name
  fields : ∀ f ∈ d.fields, IsWord f.name

structure FunctionBinding.Worded (f : FunctionBinding) : Prop where
  encoder : IsWord f.encoder
  methods : ∀ m ∈ f.methodNames, IsWord m
  inputs : ∀ p ∈ f.inputs, IsWord p.name
  outputs : ∀ p ∈ f.outputs, IsWord p.name
  value : ∀ v ∈ f.valueParam, IsWord v

structure EventBinding.Worded (e : EventBinding) : Prop where
  record : IsWord e.recordName
  filter : IsWord e.filterMethod
  fields : ∀ f ∈ e.fields, IsWord f.name

structure ErrorBinding.Worded (e : ErrorBinding) : Prop where
  record : IsWord e.recordName
  fields : ∀ f ∈ e.fields, IsWord f.name

structure DeployHelper.Worded (helper : DeployHelper) : Prop where
  inputs : ∀ p ∈ helper.inputs, IsWord p.name
  provider : IsWord helper.providerParam
  value : ∀ v ∈ helper.valueParam, IsWord v

/-- All identifiers that a generated module declares are words. -/
structure ContractBindings.Worded (b : ContractBindings) : Prop where
  typeName : IsWord b.typeName
  structs : ∀ d ∈ b.structs, d.Worded
  functions : ∀ f ∈ b.functions, f.Worded
  events : ∀ e ∈ b.events, e.Worded
  errors : ∀ e ∈ b.errors, e.Worded
  deploy : ∀ helper ∈ b.deploy, helper.Worded

/-- Whatever the raw names, a generated name is a word. -/
theorem Coined.isWord {Raw : String → Prop} {name : String} (h : Coined Raw name) : IsWord name := by
  have hlabels : ∀ name ∈ Naming.labels, IsWord name := by decide
  have hheads : ∀ start ∈ Naming.heads, IsWord start := by decide
  induction h with
  | label h => exact hlabels _ h
  | value _ _ ih => exact Naming.isWord_valueIdent _ ih
  | type _ _ ih => exact Naming.isWord_typeIdent _ ih
  | tail _ ht ih => exact isWord_append.mpr ⟨ih, ht.word.isWord⟩
  | head hs _ ih => exact isWord_append.mpr ⟨hheads _ hs, ih⟩

section Identifiers

theorem StructDefinition.worded {d : StructDefinition} (h : ∀ n ∈ d.identifiers, IsWord n) :
    d.Worded := by
  obtain ⟨hname, hfields⟩ := List.forall_mem_cons.mp h
  exact ⟨hname, List.forall_mem_map.mp hfields⟩

theorem FunctionBinding.worded {f : FunctionBinding} (h : ∀ n ∈ f.identifiers, IsWord n) :
    f.Worded := by
  obtain ⟨hencoder, hown⟩ := List.forall_mem_cons.mp h
  obtain ⟨hmethods, hinputs, houtputs, hvalue⟩ := forall_ownNames.mp hown
  exact ⟨hencoder, hmethods, hinputs, houtputs, hvalue⟩

theorem EventBinding.worded {e : EventBinding} (h : ∀ n ∈ e.identifiers, IsWord n) :
    e.Worded := by
  simp only [identifiers, List.forall_mem_cons, List.forall_mem_map] at h
  exact ⟨h.1, h.2.1, h.2.2⟩

theorem ErrorBinding.worded {e : ErrorBinding} (h : ∀ n ∈ e.identifiers, IsWord n) :
    e.Worded := by
  obtain ⟨hrecord, hfields⟩ := List.forall_mem_cons.mp h
  exact ⟨hrecord, List.forall_mem_map.mp hfields⟩

theorem DeployHelper.worded {helper : DeployHelper} (h : ∀ n ∈ helper.identifiers, IsWord n) :
    helper.Worded := by
  simp only [identifiers, List.forall_mem_cons, List.forall_mem_append, List.forall_mem_map,
    Option.mem_toList] at h
  exact ⟨h.2.1, h.1, h.2.2⟩

theorem ContractBindings.worded {b : ContractBindings} (h : ∀ n ∈ b.identifiers, IsWord n) :
    b.Worded := by
  simp only [identifiers, List.forall_mem_cons, List.forall_mem_append, List.forall_mem_flatMap,
    Option.mem_toList] at h
  obtain ⟨_, htype, hstructs, hfunctions, hevents, herrors, hdeploy⟩ := h
  exact ⟨htype, fun d hd => StructDefinition.worded (hstructs d hd),
    fun f hf => FunctionBinding.worded (hfunctions f hf),
    fun e he => EventBinding.worded (hevents e he), fun e he => ErrorBinding.worded (herrors e he),
    fun helper hh => DeployHelper.worded (hdeploy helper hh)⟩

end Identifiers

/-- Bindings declare words only, whatever the names in the interface. -/
theorem buildBindings_worded {options : Options} {contractName : String} {modulePath : ModulePath}
    {shapes : ShapeTable} {ds : List ResolvedDeclaration} {bytecode : Option String}
    {b : ContractBindings}
    (h : (buildBindings options contractName modulePath shapes ds bytecode).result = .ok b) :
    b.Worded := by
  have hcoined : ∀ n ∈ b.identifiers, Coined (fun _ => True) n :=
    buildBindings_coined h trivial (fun _ _ => ⟨fun _ _ => trivial, fun _ _ => trivial⟩)
      fun _ _ => ⟨trivial, fun _ _ => trivial, fun _ _ => trivial⟩
  exact ContractBindings.worded fun n hn => (hcoined n hn).isWord

end AbiBindings
