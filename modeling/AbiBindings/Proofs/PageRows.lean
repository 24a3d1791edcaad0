import AbiBindings.Render.Module

namespace AbiBindings

/-- Steps that return to the level they start from and never stand further out than it. -/
inductive Level : List Step → Prop
  | nil : Level []
  | blank {steps : List Step} (h : Level steps) : Level (.blank :: steps)
  | line (text : String) {steps : List Step} (h : Level steps) : Level (.line text :: steps)
  | nestedLine (text : String) {steps : List Step} (h : Level steps) :
    Level (.nestedLine text :: steps)
  | deeper {body steps : List Step} (hb : Level body) (h : Level steps) :
    Level (.indent :: (body ++ .dedent :: steps))

namespace Level

variable {xs ys body : List Step}

theorem append (hx : Level xs) (hy : Level ys) : Level (xs ++ ys) := by
  induction hx with
  | nil => exact hy
  | blank _ ih => exact .blank ih
  | line text _ ih => exact .line text ih
  | nestedLine text _ ih => exact .nestedLine text ih
  | deeper hb _ _ ih =>
    rw [List.cons_append, List.append_assoc]
    exact .deeper hb ih

/-- Two parts with an empty line between them. -/
theorem apart (hx : Level xs) (hy : Level ys) : Level (xs ++ .blank :: ys) := hx.append (.blank hy)

theorem doc (text : String) (h : Level xs) : Level (docLine text :: xs) := .line _ h

theorem block (header : String) (hb : Level body) (close : String) :
    Level (block header body close) :=
  .line _ (.deeper hb (.line close .nil))

theorem map_line {α : Type} (items : List α) (text : α → String) :
    Level (items.map fun item => .line (text item)) := by
  induction items with
  | nil => exact .nil
  | cons item items ih => exact .line _ ih

theorem flatMap {α : Type} (items : List α) {steps : α → List Step}
    (h : ∀ item, Level (steps item)) : Level (items.flatMap steps) := by
  induction items with
  | nil => exact .nil
  | cons item items ih => exact (h item).append ih

end Level

namespace Render

section Records

variable (names : StructNames)

theorem recordStruct_level (name : String) (fields : List (String × String)) :
    Level (recordStruct name fields) := by
  unfold recordStruct
  refine .line _ ?_
  split
  · exact .line _ .nil
  · exact .block _ (.map_line _ _) _

theorem selfLiteral_level (fields : List (String × String)) : Level (selfLiteral fields) := by
  unfold selfLiteral
  split
  · exact .line _ .nil
  · exact .block _ (.map_line _ _) _

theorem itemList_level (opening : String) (items : List String) (closing : String) :
    Level (itemList opening items closing) := by
  unfold itemList
  split
  · exact .line _ .nil
  · rw [List.append_assoc]
    exact .line _ (.deeper (.map_line _ _) (.line _ .nil))

theorem bytesConstant_level (header : String) (bytes : List UInt8) :
    Level (bytesConstant header bytes) := by
  simp only [bytesConstant]
  split
  · exact .line _ .nil
  · rw [List.append_assoc]
    exact .line _ (.deeper (.map_line _ _) (.line _ .nil))

theorem tupleStruct_level (d : StructDefinition) : Level (tupleStruct names d) := by
  unfold tupleStruct
  refine (recordStruct_level _ _).apart (.block _ ?_ _)
  refine ((Level.block _ (itemList_level _ _ _) _).apart
    (.block _ (itemList_level _ _ _) _)).apart (.block _ ?_ _)
  exact .line _ (selfLiteral_level _)

theorem decodeLog_level (e : EventBinding) : Level (decodeLog names e) := by
  unfold decodeLog
  refine .append (.line _ ?_) (selfLiteral_level _)
  split
  · exact .nil
  · exact .line _ .nil

theorem eventRecord_level (e : EventBinding) : Level (eventRecord names e) := by
  unfold eventRecord
  refine .apart (.doc _ (recordStruct_level _ _)) (.block _ ?_ _)
  refine .apart (.line _ ?_) (.block _ (decodeLog_level names e) _)
  split
  · exact .nil
  · exact bytesConstant_level _ _

theorem errorRecord_level (e : ErrorBinding) : Level (errorRecord names e) := by
  unfold errorRecord
  refine .apart (.doc _ (recordStruct_level _ _)) (.block _ ?_ _)
  refine .apart (.line _ (bytesConstant_level _ _)) (.doc _ (.block _ ?_ _))
  exact .line _ (selfLiteral_level _)

end Records

section Contract

variable (names : StructNames)

theorem decodeOutputs_level (outputs : List BindingParam) : Level (decodeOutputs names outputs) := by
  unfold decodeOutputs
  refine .line _ ?_
  split
  · exact .line _ .nil
  · exact itemList_level _ _ _

theorem callMethod_level (f : FunctionBinding) (method : String) :
    Level (callMethod names f method) := by
  unfold callMethod
  refine .doc _ (.block _ ?_ _)
  split
  · exact .line _ .nil
  · exact .block _ (decodeOutputs_level names _) _

theorem transactionMethod_level (f : FunctionBinding) (method : String) :
    Level (transactionMethod names f method) :=
  .doc _ (.block _ (.line _ .nil) _)

theorem deployMethod_level (helper : DeployHelper) : Level (deployMethod names helper) :=
  .doc _ (.block _ (.line _ .nil) _)

theorem filterMethod_level (e : EventBinding) : Level (filterMethod e) :=
  .doc _ (.block _ (.line _ .nil) _)

theorem functionMethods_level (f : FunctionBinding) : Level (functionMethods names f) := by
  unfold functionMethods
  apply Level.append
  · split
    · exact .blank (callMethod_level names f _)
    · exact .nil
  · split
    · exact .blank (transactionMethod_level names f _)
    · exact .nil

theorem rawTransaction_level : Level rawTransaction := .doc _ (.block _ (.line _ .nil) _)

theorem deploySection_level (deploy : Option DeployHelper) : Level (deploySection names deploy) := by
  cases deploy with
  | none => exact .nil
  | some helper => exact .blank (deployMethod_level names helper)

def commonMethods : List Step :=
  docLine "Binds to the contract deployed at `address`."
    :: block "pub fn at(address: ethabi::Address, provider: P) -> Self"
      (block "Self" [.line "inner: rt::Contract::new(address, provider),"])
    ++ .blank :: block "pub fn address(&self) -> ethabi::Address" [.line "self.inner.address()"]

def ownMethods (b : ContractBindings) : List Step :=
  b.functions.flatMap (functionMethods names)
    ++ b.events.flatMap (fun e => .blank :: filterMethod e)
    ++ if b.hasFallback || b.hasReceive then .blank :: rawTransaction else []

theorem commonMethods_level : Level commonMethods :=
  .apart (.doc _ (.block _ (.block _ (.line _ .nil) _) _)) (.block _ (.line _ .nil) _)

theorem ownMethods_level (b : ContractBindings) : Level (ownMethods names b) := by
  unfold ownMethods
  refine .append (.append (.flatMap _ ?_) (.flatMap _ ?_)) ?_
  · exact fun f => functionMethods_level names f
  · exact fun e => .blank (filterMethod_level e)
  · split
    · exact .blank rawTransaction_level
    · exact .nil

def handleStruct (b : ContractBindings) : List Step :=
  docLine ("Typed handle to a deployed `" ++ b.contractName ++ "` contract.")
    :: .line "#[derive(Debug, Clone)]"
    :: block ("pub struct " ++ b.typeName ++ "<P>") [.line "inner: rt::Contract<P>,"]

theorem handleStruct_level (b : ContractBindings) : Level (handleStruct b) :=
  .doc _ (.line _ (.block _ (.line _ .nil) _))

/-- The handle in three parts, of which the middle one is about deployment. -/
theorem contract_eq (b : ContractBindings) :
    contract names b = handleStruct b ++ .blank ::
      block ("impl<P: rt::Provider> " ++ b.typeName ++ "<P>")
        (commonMethods ++ deploySection names b.deploy ++ ownMethods names b) := by
  simp only [contract, handleStruct, commonMethods, ownMethods, List.append_assoc,
    List.cons_append]

theorem contract_level (b : ContractBindings) : Level (contract names b) := by
  rw [contract_eq]
  exact (handleStruct_level b).apart (.block _ (.append
    (.append commonMethods_level (deploySection_level names _)) (ownMethods_level names b)) _)

theorem encoder_level (isPublic : Bool) (f : FunctionBinding) :
    Level (encoder names isPublic f) :=
  .doc _ (.block _ (.line _ .nil) _)

end Contract

section Pages

theorem header_level (b : ContractBindings) (runtime : String) : Level (header b runtime) := by
  unfold header
  refine .line _ (.line _ (.line _ (.blank (.line _ (.line _ (.blank ?_))))))
  exact .line _ (.line _ (.line _ .nil))

theorem bytecodeConstant_level (deploy : Option DeployHelper) : Level (bytecodeConstant deploy) := by
  cases deploy with
  | none => exact .nil
  | some helper => exact .blank (.doc _ (.line _ .nil))

def records (b : ContractBindings) : List Step :=
  b.structs.flatMap (fun d => .blank :: tupleStruct (structName b) d)
    ++ b.events.flatMap (fun e => .blank :: eventRecord (structName b) e)
    ++ b.errors.flatMap (fun e => .blank :: errorRecord (structName b) e)

def encoders (b : ContractBindings) : List Step :=
  b.functions.flatMap fun f => .blank :: encoder (structName b) b.publicEncoders f

theorem records_level (b : ContractBindings) : Level (records b) :=
  .append
    (.append (.flatMap _ fun d => .blank (tupleStruct_level _ d))
      (.flatMap _ fun e => .blank (eventRecord_level _ e)))
    (.flatMap _ fun e => .blank (errorRecord_level _ e))

theorem encoders_level (b : ContractBindings) : Level (encoders b) :=
  .flatMap _ fun f => .blank (encoder_level _ _ f)

/-- The page in the parts that the renderer puts together. -/
theorem page_eq (b : ContractBindings) (runtime : String) :
    page b runtime = header b runtime ++ bytecodeConstant b.deploy ++ records b
      ++ .blank :: contract (structName b) b ++ encoders b := by
  simp only [page, records, encoders, List.append_assoc]

theorem page_level (b : ContractBindings) (runtime : String) : Level (page b runtime) := by
  rw [page_eq]
  exact .append (.apart (.append (.append (header_level b runtime) (bytecodeConstant_level _))
    (records_level b)) (contract_level _ b)) (encoders_level b)

end Pages

end Render

/-- Lines, each with the number of levels that it stands deeper than the pen. -/
abbrev Rows := List (Nat × String)

namespace Pen

def deeper (pen : Pen) (depth : Nat) : Pen := { pen with level := pen.level + depth }

def rowsText (pen : Pen) (rows : Rows) : String :=
  String.join (rows.map fun (depth, text) => (pen.deeper depth).lineText text)

variable {pen : Pen}

/-- The second part of a page is written with the pen that the first leaves. -/
theorem write_append (xs ys : List Step) :
    pen.write (xs ++ ys) = ((pen.write xs).1 ++ ((pen.write xs).2.write ys).1,
      ((pen.write xs).2.write ys).2) := by
  induction xs generalizing pen with
  | nil => simp [write]
  | cons x xs ih => simp only [List.cons_append, write, ih, String.append_assoc]

theorem rowsText_cons (depth : Nat) (text : String) (rows : Rows) :
    pen.rowsText ((depth, text) :: rows) = (pen.deeper depth).lineText text ++ pen.rowsText rows :=
  String.join_cons

theorem rowsText_append (xs ys : Rows) :
    pen.rowsText (xs ++ ys) = pen.rowsText xs ++ pen.rowsText ys := by
  induction xs with
  | nil => simp [rowsText]
  | cons x xs ih =>
    obtain ⟨depth, text⟩ := x
    rw [List.cons_append, rowsText_cons, rowsText_cons, ih, String.append_assoc]

theorem rowsText_indent (rows : Rows) :
    pen.indent.rowsText rows = pen.rowsText (rows.map fun (depth, text) => (depth + 1, text)) := by
  have hdeeper : ∀ depth, pen.indent.deeper depth = pen.deeper (depth + 1) := by
    intro depth
    simp only [deeper, indent, Pen.mk.injEq, and_true]
    omega
  simp only [rowsText, List.map_map, Function.comp_def, hdeeper]

theorem lineText_empty : pen.lineText "" = "\n" := if_pos rfl

end Pen

/-- What returns to its level writes the same lines from any level, and leaves the pen as it was. The
induction is on how the steps nest, which keeps the pen a variable. -/
theorem Level.write {steps : List Step} (h : Level steps) :
    ∃ rows : Rows, ∀ pen : Pen, pen.write steps = (pen.rowsText rows, pen) := by
  induction h with
  | nil => exact ⟨[], fun pen => rfl⟩
  | blank _ ih =>
    obtain ⟨rows, hrows⟩ := ih
    refine ⟨(0, "") :: rows, fun pen => ?_⟩
    rw [Pen.rowsText_cons, Pen.lineText_empty]
    simp only [Pen.write, Pen.take, hrows]
  | line text _ ih =>
    obtain ⟨rows, hrows⟩ := ih
    refine ⟨(0, text) :: rows, fun pen => ?_⟩
    rw [Pen.rowsText_cons]
    simp only [Pen.write, Pen.take, hrows]
    rfl
  | nestedLine text _ ih =>
    obtain ⟨rows, hrows⟩ := ih
    refine ⟨(1, text) :: rows, fun pen => ?_⟩
    rw [Pen.rowsText_cons]
    simp only [Pen.write, Pen.take, hrows]
    rfl
  | deeper _ _ ihb ih =>
    obtain ⟨body, hbody⟩ := ihb
    obtain ⟨rows, hrows⟩ := ih
    refine ⟨body.map (fun (depth, text) => (depth + 1, text)) ++ rows, fun pen => ?_⟩
    have hback : pen.indent.dedent = pen := rfl
    rw [Pen.rowsText_append, ← Pen.rowsText_indent]
    simp only [Pen.write, Pen.take, Pen.write_append, hbody, hback, hrows, String.empty_append]

theorem Level.pen_eq {steps : List Step} (h : Level steps) (pen : Pen) :
    (pen.write steps).2 = pen := by
  obtain ⟨rows, hrows⟩ := h.write
  rw [hrows]

end AbiBindings
