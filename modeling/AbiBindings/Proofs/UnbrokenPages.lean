import AbiBindings.Proofs.UnbrokenRecords

namespace AbiBindings

/-- No raw text that a module quotes breaks a line. -/
structure ContractBindings.OneLineTexts (b : ContractBindings) : Prop where
  contract : Unbroken b.contractName
  functions : ∀ f ∈ b.functions, Unbroken f.signature
  events : ∀ e ∈ b.events, Unbroken e.signature ∧ Unbroken e.abiName
  errors : ∀ e ∈ b.errors, Unbroken e.signature
  deploy : ∀ helper ∈ b.deploy, ∀ signature ∈ helper.signature, Unbroken signature

namespace Render

variable {names : StructNames}

section Calls

variable {params : List BindingParam}

theorem unbroken_arguments (hn : ∀ id, Unbroken (names id))
    (hp : ∀ p ∈ params, IsWord p.name) : ∀ item ∈ arguments names params, Unbroken item := by
  refine List.forall_mem_map.mpr fun p hm => ?_
  exact unbroken_around (hp p hm).unbroken (unbroken_ofList (by decide)) (unbroken_typeName hn _)

theorem unbroken_argumentTokens (hp : ∀ p ∈ params, IsWord p.name) :
    Unbroken (argumentTokens params) := by
  refine unbroken_around (unbroken_ofList (by decide)) (unbroken_commaList ?_)
    (unbroken_ofList (by decide))
  exact List.forall_mem_map.mpr fun p hm => unbroken_intoToken _ _ _ _ (hp p hm).unbroken

theorem unbroken_returnType (hn : ∀ id, Unbroken (names id)) (outputs : List BindingParam) :
    Unbroken (returnType names outputs) := by
  unfold returnType
  split
  · exact unbroken_ofList (by decide)
  · exact unbroken_typeName hn _
  · refine unbroken_around (unbroken_ofList (by decide)) (unbroken_commaList ?_)
      (unbroken_ofList (by decide))
    exact List.forall_mem_map.mpr fun p _ => unbroken_typeName hn _

theorem unbroken_selectorText (selector : Keccak.Selector) : Unbroken (selectorText selector) :=
  unbroken_around (unbroken_ofList (by decide)) (Text.unbroken_hexBytes _)
    (unbroken_ofList (by decide))

variable {value : Option String} (hv : ∀ name ∈ value, IsWord name)
include hv

theorem unbroken_valueExpression : Unbroken (valueExpression value) := by
  cases value with
  | none => exact unbroken_ofList (by decide)
  | some name =>
    exact unbroken_around (unbroken_ofList (by decide)) (hv name rfl).unbroken
      (unbroken_ofList (by decide))

theorem unbroken_valueParameter : ∀ item ∈ valueParameter value, Unbroken item := by
  cases value with
  | none => simp [valueParameter]
  | some name =>
    exact List.forall_mem_singleton.mpr
      (unbroken_append.mpr ⟨(hv name rfl).unbroken, unbroken_ofList (by decide)⟩)

end Calls

/-- A method, under a line about what it does. -/
theorem unbroken_documented {doc header close : String} {body : List Step} (hd : Unbroken doc)
    (hh : Unbroken header) (hb : ∀ s ∈ body, s.Unbroken) (hc : Unbroken close) :
    ∀ s ∈ docLine doc :: block header body close, s.Unbroken :=
  List.forall_mem_cons.mpr ⟨unbroken_docLine hd, unbroken_block hh hb hc⟩

section Functions

variable {f : FunctionBinding}

theorem unbroken_encoderCall (hf : f.Worded) : Unbroken (encoderCall f) := by
  refine unbroken_around (unbroken_around (unbroken_ofList (by decide)) hf.encoder.unbroken
    (unbroken_ofList (by decide))) (unbroken_commaList ?_) (unbroken_ofList (by decide))
  exact List.forall_mem_map.mpr fun p hm => (hf.inputs p hm).unbroken

theorem unbroken_decodeOutputs (hn : ∀ id, Unbroken (names id)) (outputs : List BindingParam) :
    ∀ s ∈ decodeOutputs names outputs, s.Unbroken := by
  have hlocals : ∀ name ∈ numberedNames "token" outputs.length, Unbroken name :=
    unbroken_numberedNames (unbroken_ofList (by decide)) _
  have hvalues : ∀ value ∈ (outputs.zip (numberedNames "token" outputs.length)).map fun x =>
      fromToken names x.1.type.wire x.1.type.target x.2 0, Unbroken value :=
    List.forall_mem_map.mpr fun x hx =>
      unbroken_fromToken hn _ _ _ _ (hlocals x.2 (List.of_mem_zip hx).2)
  unfold decodeOutputs
  refine List.forall_mem_cons.mpr ⟨unbroken_append.mpr ⟨unbroken_around ?_
    (unbroken_commaList hlocals) ?_, unbroken_decode hn _ _ ?_ ?_ ?_⟩, ?values⟩
  case values =>
    split
    · rename_i value he
      exact List.forall_mem_singleton.mpr (hvalues value (by simp [he]))
    · refine unbroken_itemList ?_ (List.forall_mem_map.mpr fun value hm => ?item) ?_
      case item => exact unbroken_append.mpr ⟨hvalues value hm, unbroken_ofList (by decide)⟩
      all_goals exact unbroken_ofList (by decide)
  all_goals exact unbroken_ofList (by decide)

/-- Every line of a calling method is made of words and of the signature. -/
theorem unbroken_callMethod (hn : ∀ id, Unbroken (names id)) (hf : f.Worded)
    (hs : Unbroken f.signature) {method : String} (hm : IsWord method) :
    ∀ s ∈ callMethod names f method, s.Unbroken := by
  have hcall := unbroken_encoderCall hf
  have hparams : ∀ item ∈ "&self" :: arguments names f.inputs, Unbroken item :=
    List.forall_mem_cons.mpr ⟨unbroken_ofList (by decide), unbroken_arguments hn hf.inputs⟩
  unfold callMethod
  refine unbroken_documented ?doc ?header ?body (unbroken_ofList (by decide))
  case doc =>
    refine unbroken_around (unbroken_around ?_ hs ?_) (unbroken_selectorText _) ?_
    all_goals exact unbroken_ofList (by decide)
  case header =>
    refine unbroken_around (unbroken_around (unbroken_around ?_ hm.unbroken ?_)
      (unbroken_commaList hparams) ?_) (unbroken_returnType hn _) ?_
    all_goals exact unbroken_ofList (by decide)
  case body =>
    split
    · refine List.forall_mem_singleton.mpr (unbroken_around ?_ hcall ?_)
      all_goals exact unbroken_ofList (by decide)
    · refine unbroken_block (unbroken_around ?_ hcall ?_) (unbroken_decodeOutputs hn _) ?_
      all_goals exact unbroken_ofList (by decide)

theorem unbroken_transactionMethod (hn : ∀ id, Unbroken (names id)) (hf : f.Worded)
    (hs : Unbroken f.signature) {method : String} (hm : IsWord method) :
    ∀ s ∈ transactionMethod names f method, s.Unbroken := by
  have hparams : ∀ item ∈ "&self" :: arguments names f.inputs ++ valueParameter f.valueParam,
      Unbroken item :=
    List.forall_mem_append.mpr ⟨List.forall_mem_cons.mpr ⟨unbroken_ofList (by decide),
      unbroken_arguments hn hf.inputs⟩, unbroken_valueParameter hf.value⟩
  unfold transactionMethod
  refine unbroken_documented ?doc ?header (List.forall_mem_singleton.mpr ?body)
    (unbroken_ofList (by decide))
  case doc =>
    refine unbroken_around (unbroken_around ?_ hs ?_) (unbroken_selectorText _) ?_
    all_goals exact unbroken_ofList (by decide)
  case header =>
    refine unbroken_around (unbroken_around ?_ hm.unbroken ?_) (unbroken_commaList hparams) ?_
    all_goals exact unbroken_ofList (by decide)
  case body =>
    refine unbroken_around (unbroken_around ?_ (unbroken_encoderCall hf) ?_)
      (unbroken_valueExpression hf.value) ?_
    all_goals exact unbroken_ofList (by decide)

theorem unbroken_functionMethods (hn : ∀ id, Unbroken (names id)) (hf : f.Worded)
    (hs : Unbroken f.signature) : ∀ s ∈ functionMethods names f, s.Unbroken := by
  have hmethods := hf.methods
  unfold functionMethods
  refine List.forall_mem_append.mpr ⟨?_, ?_⟩
  · split
    · rename_i method hc
      refine List.forall_mem_cons.mpr ⟨trivial, unbroken_callMethod hn hf hs (hmethods method ?_)⟩
      simp [FunctionBinding.methodNames, hc]
    · simp
  · split
    · rename_i method ht
      refine List.forall_mem_cons.mpr
        ⟨trivial, unbroken_transactionMethod hn hf hs (hmethods method ?_)⟩
      simp [FunctionBinding.methodNames, ht]
    · simp

theorem unbroken_encoder (hn : ∀ id, Unbroken (names id)) (isPublic : Bool) (hf : f.Worded)
    (hs : Unbroken f.signature) : ∀ s ∈ encoder names isPublic f, s.Unbroken := by
  have hvisibility : Unbroken (if isPublic then "pub " else "") := by
    split <;> exact unbroken_ofList (by decide)
  unfold encoder
  refine unbroken_documented ?doc ?header (List.forall_mem_singleton.mpr ?body)
    (unbroken_ofList (by decide))
  case doc => exact unbroken_around (unbroken_ofList (by decide)) hs (unbroken_ofList (by decide))
  case header =>
    refine unbroken_around (unbroken_around (unbroken_append.mpr ⟨hvisibility, ?_⟩)
      hf.encoder.unbroken ?_) (unbroken_commaList (unbroken_arguments hn hf.inputs)) ?_
    all_goals exact unbroken_ofList (by decide)
  case body =>
    refine unbroken_around (unbroken_around ?_ (unbroken_commaList (unbroken_byteLiterals _)) ?_)
      (unbroken_argumentTokens hf.inputs) ?_
    all_goals exact unbroken_ofList (by decide)

end Functions

/-- The signature of the constructor is the only text quoted when deploying. -/
theorem unbroken_deployMethod (hn : ∀ id, Unbroken (names id)) {helper : DeployHelper}
    (hd : helper.Worded) (hs : ∀ signature ∈ helper.signature, Unbroken signature) :
    ∀ s ∈ deployMethod names helper, s.Unbroken := by
  have hparams : ∀ item ∈ (helper.providerParam ++ ": P") :: arguments names helper.inputs
      ++ valueParameter helper.valueParam, Unbroken item :=
    List.forall_mem_append.mpr ⟨List.forall_mem_cons.mpr ⟨unbroken_append.mpr
      ⟨hd.provider.unbroken, unbroken_ofList (by decide)⟩, unbroken_arguments hn hd.inputs⟩,
      unbroken_valueParameter hd.value⟩
  have hencoded : Unbroken (if helper.inputs.isEmpty then "Vec::new()"
      else "ethabi::encode(" ++ argumentTokens helper.inputs ++ ")") := by
    split
    · exact unbroken_ofList (by decide)
    · exact unbroken_around (unbroken_ofList (by decide)) (unbroken_argumentTokens hd.inputs)
        (unbroken_ofList (by decide))
  unfold deployMethod
  refine unbroken_documented ?doc ?header (List.forall_mem_singleton.mpr ?body)
    (unbroken_ofList (by decide))
  case doc =>
    split
    · rename_i signature he
      exact unbroken_around (unbroken_ofList (by decide)) (hs signature he)
        (unbroken_ofList (by decide))
    · exact unbroken_ofList (by decide)
  case header =>
    exact unbroken_around (unbroken_ofList (by decide)) (unbroken_commaList hparams)
      (unbroken_ofList (by decide))
  case body =>
    refine unbroken_around (unbroken_around (unbroken_around ?_ hd.provider.unbroken ?_) hencoded ?_)
      (unbroken_valueExpression hd.value) ?_
    all_goals exact unbroken_ofList (by decide)

theorem unbroken_filterMethod {e : EventBinding} (he : e.Worded) (hs : Unbroken e.abiName) :
    ∀ s ∈ filterMethod e, s.Unbroken := by
  have hrecord := he.record.unbroken
  have htopic : Unbroken
      (if e.anonymous then "None" else "Some(" ++ e.recordName ++ "::TOPIC)") := by
    split
    · exact unbroken_ofList (by decide)
    · exact unbroken_around (unbroken_ofList (by decide)) hrecord (unbroken_ofList (by decide))
  unfold filterMethod
  refine unbroken_documented ?doc ?header (List.forall_mem_singleton.mpr ?body)
    (unbroken_ofList (by decide))
  case doc => exact unbroken_around (unbroken_ofList (by decide)) hs (unbroken_ofList (by decide))
  case header =>
    refine unbroken_around (unbroken_around ?_ he.filter.unbroken ?_) hrecord ?_
    all_goals exact unbroken_ofList (by decide)
  case body =>
    refine unbroken_around (unbroken_around ?_ htopic ?_) hrecord ?_
    all_goals exact unbroken_ofList (by decide)

theorem unbroken_rawTransaction : ∀ s ∈ rawTransaction, s.Unbroken := by
  unfold rawTransaction
  refine unbroken_documented ?_ (unbroken_append.mpr ⟨?_, ?_⟩) (List.forall_mem_singleton.mpr ?_) ?_
  all_goals exact unbroken_ofList (by decide)

/-- Parts that an empty line goes before each. -/
theorem unbroken_sections {α : Type} {xs : List α} {part : α → List Step}
    (h : ∀ x ∈ xs, ∀ s ∈ part x, s.Unbroken) :
    ∀ s ∈ xs.flatMap fun x => .blank :: part x, s.Unbroken := by
  intro s hs
  obtain ⟨x, hx, hs⟩ := List.mem_flatMap.mp hs
  exact List.forall_mem_cons.mpr ⟨trivial, h x hx⟩ s hs

section Modules

variable {b : ContractBindings} {runtime : String}

theorem unbroken_structName (hb : b.Worded) (id : StructId) : Unbroken (structName b id) := by
  unfold structName
  split
  · rename_i d hd
    obtain ⟨hm, _⟩ := Option.filter_eq_some_iff.mp hd
    exact (hb.structs d (List.mem_of_getElem? hm)).name.unbroken
  · exact unbroken_append.mpr ⟨unbroken_ofList (by decide), unbroken_toString id⟩

theorem unbroken_contract (hn : ∀ id, Unbroken (names id)) (hb : b.Worded) (ht : b.OneLineTexts) :
    ∀ s ∈ contract names b, s.Unbroken := by
  have htype := hb.typeName.unbroken
  have hdeploy : ∀ s ∈ deploySection names b.deploy, s.Unbroken := by
    unfold deploySection
    split
    · rename_i helper he
      exact List.forall_mem_cons.mpr
        ⟨trivial, unbroken_deployMethod hn (hb.deploy helper he) (ht.deploy helper he)⟩
    · simp
  have hfunctions : ∀ s ∈ b.functions.flatMap (functionMethods names), s.Unbroken := by
    intro s hs
    obtain ⟨f, hf, hs⟩ := List.mem_flatMap.mp hs
    exact unbroken_functionMethods hn (hb.functions f hf) (ht.functions f hf) s hs
  have hevents : ∀ s ∈ b.events.flatMap (fun e => .blank :: filterMethod e), s.Unbroken :=
    unbroken_sections fun e he => unbroken_filterMethod (hb.events e he) (ht.events e he).2
  have hat : ∀ s ∈ docLine "Binds to the contract deployed at `address`."
      :: block "pub fn at(address: ethabi::Address, provider: P) -> Self"
        (block "Self" [.line "inner: rt::Contract::new(address, provider),"]), s.Unbroken := by
    refine unbroken_documented ?_ ?_ (unbroken_block ?_ (List.forall_mem_singleton.mpr ?_) ?_) ?_
    all_goals exact unbroken_ofList (by decide)
  have haddress : ∀ s ∈ block "pub fn address(&self) -> ethabi::Address"
      [.line "self.inner.address()"], s.Unbroken := by
    refine unbroken_block ?_ (List.forall_mem_singleton.mpr ?_) ?_
    all_goals exact unbroken_ofList (by decide)
  have hraw : ∀ s ∈ if b.hasFallback || b.hasReceive then .blank :: rawTransaction else [],
      s.Unbroken := by
    split
    · exact List.forall_mem_cons.mpr ⟨trivial, unbroken_rawTransaction⟩
    · simp
  have hmethods := List.forall_mem_append.mpr ⟨List.forall_mem_append.mpr
    ⟨List.forall_mem_append.mpr ⟨List.forall_mem_append.mpr ⟨unbroken_apart hat haddress, hdeploy⟩,
      hfunctions⟩, hevents⟩, hraw⟩
  unfold contract
  refine unbroken_apart (List.forall_mem_cons.mpr ⟨unbroken_docLine ?doc,
    List.forall_mem_cons.mpr ⟨?_, ?handle⟩⟩) (unbroken_block ?impl hmethods ?_)
  case doc =>
    exact unbroken_around (unbroken_ofList (by decide)) ht.contract (unbroken_ofList (by decide))
  case handle =>
    refine unbroken_block (unbroken_around ?_ htype ?_) (List.forall_mem_singleton.mpr ?_) ?_
    all_goals exact unbroken_ofList (by decide)
  case impl =>
    exact unbroken_around (unbroken_ofList (by decide)) htype (unbroken_ofList (by decide))
  all_goals exact unbroken_ofList (by decide)

theorem unbroken_header (hc : Unbroken b.contractName) (hm : Unbroken b.modulePath.text)
    (hr : Unbroken runtime) : ∀ s ∈ header b runtime, s.Unbroken := by
  simp only [header, List.forall_mem_cons, Step.Unbroken, unbroken_append, hc, hm, hr, true_and,
    and_true]
  and_intros <;> first | exact unbroken_ofList (by decide) | simp

theorem unbroken_bytecodeConstant (deploy : Option DeployHelper) :
    ∀ s ∈ bytecodeConstant deploy, s.Unbroken := by
  cases deploy with
  | none => simp [bytecodeConstant]
  | some helper =>
    refine List.forall_mem_cons.mpr ⟨trivial, List.forall_mem_cons.mpr ⟨unbroken_docLine ?_,
      List.forall_mem_singleton.mpr (unbroken_around ?_ (Text.unbroken_quoted _) ?_)⟩⟩
    all_goals exact unbroken_ofList (by decide)

/-- A page has no step that breaks a line unless a raw text does. -/
theorem unbroken_page (hb : b.Worded) (ht : b.OneLineTexts) (hm : Unbroken b.modulePath.text)
    (hr : Unbroken runtime) : ∀ s ∈ page b runtime, s.Unbroken := by
  have hn := unbroken_structName hb
  have hstructs := unbroken_sections fun d hd => unbroken_tupleStruct hn (hb.structs d hd)
  have hevents := unbroken_sections fun e he =>
    unbroken_eventRecord hn (hb.events e he) (ht.events e he).1
  have herrors := unbroken_sections fun e he =>
    unbroken_errorRecord hn (hb.errors e he) (ht.errors e he)
  have hencoders := unbroken_sections fun f hf =>
    unbroken_encoder hn b.publicEncoders (hb.functions f hf) (ht.functions f hf)
  unfold page
  exact List.forall_mem_append.mpr ⟨unbroken_apart (List.forall_mem_append.mpr
    ⟨List.forall_mem_append.mpr ⟨List.forall_mem_append.mpr ⟨List.forall_mem_append.mpr
      ⟨unbroken_header ht.contract hm hr, unbroken_bytecodeConstant _⟩, hstructs⟩, hevents⟩,
      herrors⟩) (unbroken_contract hn hb ht), hencoders⟩

end Modules

end Render

end AbiBindings
