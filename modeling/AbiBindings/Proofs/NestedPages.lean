import AbiBindings.Proofs.DeclaredNames
import AbiBindings.Proofs.NestedRecords

namespace AbiBindings

namespace Render

variable {names : StructNames}

section Calls

variable {params : List BindingParam}

theorem closed_arguments (hn : ∀ id, Closed (names id)) (hp : ∀ p ∈ params, IsWord p.name) :
    ∀ item ∈ arguments names params, Closed item :=
  List.forall_mem_map.mpr fun p hm =>
    closed_append (.append (hp p hm).closed (.ofList rfl)) (closed_typeName hn _)

theorem closed_argumentTokens (hp : ∀ p ∈ params, IsWord p.name) :
    Closed (argumentTokens params) := by
  refine .fill (.ofList rfl) (closed_commaList ?_) (.ofList rfl)
  exact List.forall_mem_map.mpr fun p hm => closed_intoToken _ _ _ _ (hp p hm).closed

theorem closed_returnType (hn : ∀ id, Closed (names id)) (outputs : List BindingParam) :
    Closed (returnType names outputs) := by
  unfold returnType
  split
  · exact .ofList rfl
  · exact closed_typeName hn _
  · refine .fill (.ofList rfl) (closed_commaList ?_) (.ofList rfl)
    exact List.forall_mem_map.mpr fun p _ => closed_typeName hn _

variable {value : Option String} (hv : ∀ name ∈ value, IsWord name)
include hv

theorem closed_valueExpression : Closed (valueExpression value) := by
  cases value with
  | none => exact .ofList rfl
  | some name => exact .fill (.ofList rfl) (hv name rfl).closed (.ofList rfl)

theorem closed_valueParameter : ∀ item ∈ valueParameter value, Closed item := by
  cases value with
  | none => simp [valueParameter]
  | some name => exact List.forall_mem_singleton.mpr (.append (hv name rfl).closed (.ofList rfl))

end Calls

/-- A method, under a line about what it does. -/
theorem documented_nests {doc header : String} {body : List Step} (hh : Closed header)
    (hb : Nests body) : Nests (docLine doc :: block header body) :=
  .doc _ (.block hh hb (.ofList rfl))

section Functions

variable {f : FunctionBinding}

theorem closed_encoderCall (hf : f.Worded) : Closed (encoderCall f) := by
  refine .fill (.fill (.ofList rfl) hf.encoder.closed (.ofList rfl)) (closed_commaList ?_)
    (.ofList rfl)
  exact List.forall_mem_map.mpr fun p hm => (hf.inputs p hm).closed

theorem decodeOutputs_nests (hn : ∀ id, Closed (names id)) (outputs : List BindingParam) :
    Nests (decodeOutputs names outputs) := by
  have hlocals : ∀ name ∈ numberedNames "token" outputs.length, Closed name :=
    closed_numberedNames (.ofList rfl) _
  have hvalues : ∀ value ∈ (outputs.zip (numberedNames "token" outputs.length)).map fun x =>
      fromToken names x.1.type.wire x.1.type.target x.2 0, Closed value :=
    List.forall_mem_map.mpr fun x hx =>
      closed_fromToken hn _ _ _ _ (hlocals x.2 (List.of_mem_zip hx).2)
  unfold decodeOutputs
  refine .line (.code (closed_append (.fill (.ofList rfl) (closed_commaList hlocals) (.ofList rfl))
    (closed_decode hn _ _ (.ofList rfl) (.ofList rfl) (.ofList rfl)))) ?_
  split
  · rename_i value he
    exact .line (.code (hvalues value (by simp [he]))) .nil
  · refine itemList_nests (.ofList rfl) (List.forall_mem_map.mpr fun value hm => ?_) (.ofList rfl)
    exact .append (hvalues value hm) (.ofList rfl)

theorem callMethod_nests (hn : ∀ id, Closed (names id)) (hf : f.Worded) {method : String}
    (hm : IsWord method) : Nests (callMethod names f method) := by
  have hcall := closed_encoderCall hf
  have hparams : ∀ item ∈ "&self" :: arguments names f.inputs, Closed item :=
    List.forall_mem_cons.mpr ⟨.ofList rfl, closed_arguments hn hf.inputs⟩
  unfold callMethod
  refine documented_nests ?header ?body
  case header =>
    exact .fill (.fill (.fill (.ofList rfl) hm.closed (.ofList rfl)) (closed_commaList hparams)
      (.ofList rfl)) (closed_returnType hn _) (.ofList rfl)
  case body =>
    split
    · exact .line (.code (.fill (.ofList rfl) hcall (.ofList rfl))) .nil
    · exact .block (.fill (.ofList rfl) hcall (.ofList rfl)) (decodeOutputs_nests hn _)
        (.ofList rfl)

theorem transactionMethod_nests (hn : ∀ id, Closed (names id)) (hf : f.Worded) {method : String}
    (hm : IsWord method) : Nests (transactionMethod names f method) := by
  have hparams : ∀ item ∈ "&self" :: arguments names f.inputs ++ valueParameter f.valueParam,
      Closed item :=
    List.forall_mem_append.mpr ⟨List.forall_mem_cons.mpr ⟨.ofList rfl,
      closed_arguments hn hf.inputs⟩, closed_valueParameter hf.value⟩
  refine documented_nests ?header (.line (.code ?body) .nil)
  case header =>
    exact .fill (.fill (.ofList rfl) hm.closed (.ofList rfl)) (closed_commaList hparams)
      (.ofList rfl)
  case body =>
    exact .fill (.fill (.ofList rfl) (closed_encoderCall hf) (.ofList rfl))
      (closed_valueExpression hf.value) (.ofList rfl)

theorem functionMethods_nests (hn : ∀ id, Closed (names id)) (hf : f.Worded) :
    Nests (functionMethods names f) := by
  have hmethods := hf.methods
  unfold functionMethods
  apply Nests.append
  · split
    · rename_i method hc
      exact .blank (callMethod_nests hn hf
        (hmethods method (by simp [FunctionBinding.methodNames, hc])))
    · exact .nil
  · split
    · rename_i method ht
      exact .blank (transactionMethod_nests hn hf
        (hmethods method (by simp [FunctionBinding.methodNames, ht])))
    · exact .nil

theorem encoder_nests (hn : ∀ id, Closed (names id)) (isPublic : Bool) (hf : f.Worded) :
    Nests (encoder names isPublic f) := by
  have hvisibility : Closed (if isPublic then "pub " else "") := by
    split <;> exact .ofList rfl
  refine documented_nests ?header (.line (.code ?body) .nil)
  case header =>
    exact .fill (.fill (closed_append hvisibility (.ofList rfl)) hf.encoder.closed (.ofList rfl))
      (closed_commaList (closed_arguments hn hf.inputs)) (.ofList rfl)
  case body =>
    exact .fill (.fill (.ofList rfl) (closed_commaList (closed_byteLiterals _)) (.ofList rfl))
      (closed_argumentTokens hf.inputs) (.ofList rfl)

end Functions

theorem deploySection_nests (hn : ∀ id, Closed (names id)) {deploy : Option DeployHelper}
    (hd : ∀ helper ∈ deploy, helper.Worded) : Nests (deploySection names deploy) := by
  cases deploy with
  | none => exact .nil
  | some helper =>
    have hworded := hd helper rfl
    have hparams : ∀ item ∈ (helper.providerParam ++ ": P") :: arguments names helper.inputs
        ++ valueParameter helper.valueParam, Closed item :=
      List.forall_mem_append.mpr ⟨List.forall_mem_cons.mpr
        ⟨.append hworded.provider.closed (.ofList rfl), closed_arguments hn hworded.inputs⟩,
        closed_valueParameter hworded.value⟩
    have hencoded : Closed (if helper.inputs.isEmpty then "Vec::new()"
        else "ethabi::encode(" ++ argumentTokens helper.inputs ++ ")") := by
      split
      · exact .ofList rfl
      · exact .fill (.ofList rfl) (closed_argumentTokens hworded.inputs) (.ofList rfl)
    refine .blank (documented_nests ?header (.line (.code ?body) .nil))
    case header => exact .fill (.ofList rfl) (closed_commaList hparams) (.ofList rfl)
    case body =>
      exact .fill (.fill (.fill (.ofList rfl) hworded.provider.closed (.ofList rfl)) hencoded
        (.ofList rfl)) (closed_valueExpression hworded.value) (.ofList rfl)

theorem filterMethod_nests {e : EventBinding} (he : e.Worded) : Nests (filterMethod e) := by
  have hrecord := he.record.closed
  have htopic : Closed
      (if e.anonymous then "None" else "Some(" ++ e.recordName ++ "::TOPIC)") := by
    split
    · exact .ofList rfl
    · exact .fill (.ofList rfl) hrecord (.ofList rfl)
  refine documented_nests ?header (.line (.code ?body) .nil)
  case header =>
    exact .fill (.fill (.ofList rfl) he.filter.closed (.ofList rfl)) hrecord (.ofList rfl)
  case body => exact .fill (.fill (.ofList rfl) htopic (.ofList rfl)) hrecord (.ofList rfl)

theorem rawTransaction_nests : Nests rawTransaction :=
  documented_nests (closed_append (.ofList rfl) (.ofList rfl)) (.line (.code (.ofList rfl)) .nil)

theorem commonMethods_nests : Nests commonMethods :=
  .apart (documented_nests (.ofList rfl)
      (.block (.ofList rfl) (.line (.code (.ofList rfl)) .nil) (.ofList rfl)))
    (.block (.ofList rfl) (.line (.code (.ofList rfl)) .nil) (.ofList rfl))

section Modules

variable {b : ContractBindings} {runtime : String}

theorem ownMethods_nests (hn : ∀ id, Closed (names id)) (hb : b.Worded) :
    Nests (ownMethods names b) := by
  unfold ownMethods
  refine .append (.append (.flatMap fun f hf => ?functions) (.flatMap fun e he => ?events)) ?raw
  case functions => exact functionMethods_nests hn (hb.functions f hf)
  case events => exact .blank (filterMethod_nests (hb.events e he))
  case raw =>
    split
    · exact .blank rawTransaction_nests
    · exact .nil

theorem contract_nests (hn : ∀ id, Closed (names id)) (hb : b.Worded) :
    Nests (contract names b) := by
  have htype := hb.typeName.closed
  rw [contract_eq]
  refine .apart ?handle (.block ?header (.append (.append commonMethods_nests
    (deploySection_nests hn hb.deploy)) (ownMethods_nests hn hb)) (.ofList rfl))
  case handle =>
    exact .doc _ (.line (.code (.ofList rfl)) (.block (.fill (.ofList rfl) htype (.ofList rfl))
      (.line (.code (.ofList rfl)) .nil) (.ofList rfl)))
  case header => exact .fill (.ofList rfl) htype (.ofList rfl)

theorem closed_structName (hb : b.Worded) (id : StructId) : Closed (structName b id) := by
  unfold structName
  split
  · rename_i d hd
    obtain ⟨hm, _⟩ := Option.filter_eq_some_iff.mp hd
    exact (hb.structs d (List.mem_of_getElem? hm)).name.closed
  · exact closed_append (.ofList rfl) (closed_toString id)

theorem header_nests (hr : Closed runtime) : Nests (header b runtime) := by
  unfold header
  refine .line (.comment ?contract []) (.line (.comment ⟨_, rfl⟩ []) (.line (.comment ?generated [])
    (.blank (.line (.code (.ofList rfl)) (.line (.code (.ofList rfl)) (.blank
      (.line (.code ?runtime) (.line (.code ?imports) (.line (.code ?tokenize) .nil)))))))))
  case contract => exact .append (.append ⟨_, rfl⟩ _) _
  case generated => exact .append (.append (.append (.append ⟨_, rfl⟩ _) _) _) _
  case runtime | imports | tokenize => exact .fill (.ofList rfl) hr (.ofList rfl)

theorem bytecodeConstant_nests (deploy : Option DeployHelper) :
    Nests (bytecodeConstant deploy) := by
  cases deploy with
  | none => exact .nil
  | some helper =>
    exact .blank (.doc _ (.line (.literal _ ⟨rfl, by decide, by decide⟩ (.ofList rfl) (.ofList rfl))
      .nil))

theorem records_nests (hb : b.Worded) : Nests (records b) := by
  have hn := closed_structName hb
  refine .append (.append (.flatMap fun d hd => ?structs) (.flatMap fun e he => ?events))
    (.flatMap fun e he => ?errors)
  case structs => exact .blank (tupleStruct_nests hn (hb.structs d hd))
  case events => exact .blank (eventRecord_nests hn (hb.events e he))
  case errors => exact .blank (errorRecord_nests hn (hb.errors e he))

theorem page_nests (hb : b.Worded) (hr : Closed runtime) : Nests (page b runtime) := by
  have hn := closed_structName hb
  rw [page_eq]
  refine .append (.apart (.append (.append (header_nests hr) (bytecodeConstant_nests _))
    (records_nests hb)) (contract_nests hn hb)) (.flatMap fun f hf => ?_)
  exact .blank (encoder_nests hn _ (hb.functions f hf))

end Modules

end Render

def IsPlainPath (path : String) : Prop := ∀ c ∈ path.toList, Text.isWordChar c = true ∨ c = ':'

theorem IsPlainPath.closed {path : String} (h : IsPlainPath path) : Closed path := by
  refine closed_of_signs fun c hc => ?_
  rcases h c hc with hword | rfl
  · exact isPlain_of_isWordChar hword
  · exact ⟨fun b => by cases b <;> decide, by decide⟩

theorem IsPlainPath.unbroken {path : String} (h : IsPlainPath path) : Unbroken path := by
  intro hm
  rcases h _ hm with hc | hc <;> contradiction

theorem IndentStyle.blank_unit (style : IndentStyle) : IsIndentation style.unit.toList := by
  cases style with
  | spaces count =>
    intro c hc
    rw [unit, String.toList_ofList] at hc
    exact .inl (List.eq_of_mem_replicate hc)
  | tabs => exact fun c hc => .inr (List.mem_singleton.mp hc)

/-- In what is left of a rendered module without comment lines and without the contents of its
literals, brackets are balanced and properly nested. So they are in the text up to the end of each
item: none is open there. -/
theorem brackets_nested {options : Options} {source : Source} {b : ContractBindings}
    {config : RenderConfig} (h : (compile options source).result = .ok b)
    (hs : source.OneLineNames) (hr : IsPlainPath config.runtime) :
    WellNested (b.render config) ∧
    ∀ before after, Render.page b config.runtime = before ++ after →
      EndsItem config.pen before after →
        (∃ rest, b.render config = (config.pen.write before).1 ++ rest) ∧
          WellNested (config.pen.write before).1 := by
  have hb := compile_renderable h
  have hunbroken := (hb.page_unbroken_iff hr.unbroken).mpr (rawNames_unbroken h hs)
  have hnests := Render.page_nests hb.worded hr.closed
  have hblank : config.pen.Blank := config.indentStyle.blank_unit
  refine ⟨(hnests.written hunbroken hblank).wellNested, ?_⟩
  intro before after hpage hends
  have hstart : b.render config = (config.pen.write before).1 ++
      ((config.pen.write before).2.write after).1 := by
    rw [ContractBindings.render, hpage, Pen.write_append]
  have hbefore : ∀ s ∈ before, s.Unbroken := fun s hm =>
    hunbroken s (hpage ▸ List.mem_append_left _ hm)
  exact ⟨⟨_, hstart⟩, ((hnests.cut hpage.symm hends).written hbefore hblank).wellNested⟩

section Greeter

def Render.beforeMethods (b : ContractBindings) (runtime : String) : List Step :=
  header b runtime ++ bytecodeConstant b.deploy ++ records b ++ .blank :: handleStruct b

/-- A page in two parts, cut behind the definition of the handle. -/
theorem Render.page_cut (b : ContractBindings) (runtime : String) :
    page b runtime = beforeMethods b runtime ++ .blank ::
      (block ("impl<P: rt::Provider> " ++ b.typeName ++ "<P>")
        (commonMethods ++ deploySection (structName b) b.deploy ++ ownMethods (structName b) b)
        ++ encoders b) := by
  simp only [page_eq, contract_eq, beforeMethods, List.append_assoc, List.cons_append]

theorem level_beforeMethods (b : ContractBindings) (runtime : String) :
    Level (Render.beforeMethods b runtime) :=
  .apart (.append (.append (Render.header_level b runtime) (Render.bytecodeConstant_level _))
    (Render.records_level b)) (Render.handleStruct_level b)

theorem Render.getLast?_beforeMethods (b : ContractBindings) (runtime : String) :
    (beforeMethods b runtime).getLast? = some (.line "\x7d") := by
  simp [beforeMethods, handleStruct, block, List.getLast?_append, List.getLast?_cons]

/-- An error whose name has a quote and brackets that belong to nothing. -/
def bracketName : String := "Too \\\" (Late]"

theorem greeter_brackets : ∃ b, (compile {} (greeter bracketName)).result = .ok b ∧
    b.errors.map (·.signature) = ["Too \" (Late]()"] :=
  ok_of_view (by decide +kernel)

theorem greeter_oneLineNames : (greeter bracketName).OneLineNames := by
  have hnames : ((Interface.parse (greeter bracketName).interface).toOption.all fun interface =>
      interface.declarations.all fun d => d.name.all fun name => decide (Unbroken name)) =
        true := by
    decide +kernel
  refine ⟨unbroken_ofList (by decide), fun interface hparse d hd name hname => ?_⟩
  rw [hparse, Except.toOption, Option.all_some, List.all_eq_true] at hnames
  have hall := hnames d hd
  rw [Option.mem_def.mp hname, Option.all_some, decide_eq_true_eq] at hall
  exact hall

/-- Tabs, and a module in place of the runtime crate. -/
def tabbed : RenderConfig := ⟨.tabs, "crate::runtime"⟩

/-- The brackets of the name stand in comments and in a literal. No other is left open at the end of
the module, nor where the definition of the handle ends. -/
theorem brackets_nested_greeter : ∃ b, (compile {} (greeter bracketName)).result = .ok b ∧
    b.errors.map (·.signature) = ["Too \" (Late]()"] ∧
    WellNested (b.render tabbed) ∧
    ∃ before after, Render.page b tabbed.runtime = before ++ after ∧
      before.getLast? = some (.line "\x7d") ∧ after.head? = some .blank ∧
      WellNested (tabbed.pen.write before).1 := by
  obtain ⟨b, hb, hsignature⟩ := greeter_brackets
  have hsigns : (tabbed.runtime.toList.all fun c => Text.isWordChar c || c = ':') = true := by
    decide
  have hr : IsPlainPath tabbed.runtime := fun c hc => by
    simpa using List.all_eq_true.mp hsigns c hc
  obtain ⟨hall, hitems⟩ := brackets_nested hb greeter_oneLineNames hr
  have hlast := Render.getLast?_beforeMethods b tabbed.runtime
  refine ⟨b, hb, hsignature, hall, _, _, Render.page_cut b _, hlast, rfl, ?_⟩
  exact (hitems _ _ (Render.page_cut b _)
    (.of_level (level_beforeMethods b _) hlast (by simp))).2

end Greeter

end AbiBindings
