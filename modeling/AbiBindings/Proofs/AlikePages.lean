import AbiBindings.Proofs.Unbroken
import Mathlib.Data.List.Forall2

namespace AbiBindings

namespace Step

def IsComment : Step → Prop
  | .line text => ∃ rest, text = "/// " ++ rest ∨ text = "//! " ++ rest
  | _ => False

/-- How steps may differ that quote different raw texts: they are comments, or differ in one literal
that stands for a text, or in the literals of as many bytes. -/
inductive Alike : Step → Step → Prop
  | same (s : Step) : Alike s s
  | comment {s t : Step} (hs : s.IsComment) (ht : t.IsComment) : Alike s t
  | literal (before after s t : String) :
    Alike (.line (before ++ Text.quoted s ++ after)) (.line (before ++ Text.quoted t ++ after))
  | bytes (before after : String) {xs ys : List UInt8} (h : xs.length = ys.length) :
    Alike (.line (before ++ Render.commaList (Render.byteLiterals xs) ++ after))
      (.line (before ++ Render.commaList (Render.byteLiterals ys) ++ after))

theorem isComment_docLine (text : String) : (docLine text).IsComment := ⟨text, .inl rfl⟩

theorem Alike.isLine {s t : Step} (h : Alike s t) : s.isLine = t.isLine := by
  have hcomment : ∀ s : Step, s.IsComment → s.isLine = true := by
    intro s hs
    cases s with
    | line text => rfl
    | _ => cases hs
  cases h with
  | same => rfl
  | comment hs ht => rw [hcomment _ hs, hcomment _ ht]
  | literal | bytes => rfl

end Step

/-- Pages that agree step by step, raw texts apart. -/
def AlikePages (page page' : List Step) : Prop := List.Forall₂ Step.Alike page page'

namespace AlikePages

variable {p p' q q' : List Step}

theorem refl (p : List Step) : AlikePages p p := List.forall₂_same.mpr fun s _ => .same s

theorem append (hp : AlikePages p p') (hq : AlikePages q q') : AlikePages (p ++ q) (p' ++ q') :=
  List.rel_append hp hq

theorem doc (s t : String) (hp : AlikePages p p') :
    AlikePages (docLine s :: p) (docLine t :: p') :=
  .cons (.comment (Step.isComment_docLine s) (Step.isComment_docLine t)) hp

theorem apart (hp : AlikePages p p') (hq : AlikePages q q') :
    AlikePages (p ++ .blank :: q) (p' ++ .blank :: q') :=
  hp.append (.cons (.same _) hq)

theorem block (header close : String) (hp : AlikePages p p') :
    AlikePages (AbiBindings.block header p close) (AbiBindings.block header p' close) :=
  ((refl _).append hp).append (refl _)

/-- Pages made piece by piece are alike when the pieces are. -/
theorem flatMap {α : Type} {R : α → α → Prop} {xs ys : List α} {part part' : α → List Step}
    (hx : List.Forall₂ R xs ys) (hp : ∀ x y, R x y → AlikePages (part x) (part' y)) :
    AlikePages (xs.flatMap part) (ys.flatMap part') :=
  List.rel_flatMap hx fun x y hr => hp x y hr

/-- Parts that an empty line goes before each. -/
theorem sections {α : Type} {R : α → α → Prop} {xs ys : List α} {part part' : α → List Step}
    (hx : List.Forall₂ R xs ys) (hp : ∀ x y, R x y → AlikePages (part x) (part' y)) :
    AlikePages (xs.flatMap fun x => .blank :: part x) (ys.flatMap fun y => .blank :: part' y) :=
  flatMap hx fun x y hr => .cons (.same _) (hp x y hr)

/-- Alike pages have the same number of lines. -/
theorem countP_isLine (h : AlikePages p p') : p.countP (·.isLine) = p'.countP (·.isLine) := by
  induction h with
  | nil => rfl
  | cons hs _ ih => rw [List.countP_cons, List.countP_cons, ih, hs.isLine]

end AlikePages

def StructField.nameless (f : StructField) : StructField := { f with abiName := "" }

def StructDefinition.nameless (d : StructDefinition) : StructDefinition :=
  { d with fields := d.fields.map (·.nameless) }

def FunctionBinding.nameless (f : FunctionBinding) : FunctionBinding :=
  { f with abiName := "", signature := "", selector := Vector.replicate 4 0 }

def EventBinding.nameless (e : EventBinding) : EventBinding :=
  { e with abiName := "", signature := "", topic := Vector.replicate 32 0 }

def ErrorBinding.nameless (e : ErrorBinding) : ErrorBinding :=
  { e with abiName := "", signature := "", selector := Vector.replicate 4 0 }

def DeployHelper.nameless (helper : DeployHelper) : DeployHelper :=
  { helper with signature := none }

/-- What is left of bindings without the raw names and what is computed from them as they are.
Identifiers stay. -/
def ContractBindings.nameless (b : ContractBindings) : ContractBindings :=
  { b with
    contractName := ""
    structs := b.structs.map (·.nameless)
    functions := b.functions.map (·.nameless)
    events := b.events.map (·.nameless)
    errors := b.errors.map (·.nameless)
    deploy := b.deploy.map (·.nameless) }

theorem forall₂_of_map {α β : Type} {f : α → β} {xs ys : List α} (h : xs.map f = ys.map f) :
    List.Forall₂ (fun x y => f x = f y) xs ys := by
  rw [← List.forall₂_map_right_iff, ← List.forall₂_map_left_iff (f := f), h]
  exact List.forall₂_same.mpr fun _ _ => rfl

theorem FunctionBinding.nameless_eq {f f' : FunctionBinding} (h : f.nameless = f'.nameless) :
    ∃ abiName signature selector, f' = { f with abiName, signature, selector } := by
  obtain ⟨⟩ := f
  obtain ⟨⟩ := f'
  simp_all [nameless]

theorem EventBinding.nameless_eq {e e' : EventBinding} (h : e.nameless = e'.nameless) :
    ∃ abiName signature topic, e' = { e with abiName, signature, topic } := by
  obtain ⟨⟩ := e
  obtain ⟨⟩ := e'
  simp_all [nameless]

theorem ErrorBinding.nameless_eq {e e' : ErrorBinding} (h : e.nameless = e'.nameless) :
    ∃ abiName signature selector, e' = { e with abiName, signature, selector } := by
  obtain ⟨⟩ := e
  obtain ⟨⟩ := e'
  simp_all [nameless]

theorem DeployHelper.nameless_eq {helper helper' : DeployHelper}
    (h : helper.nameless = helper'.nameless) :
    ∃ signature, helper' = { helper with signature } := by
  obtain ⟨⟩ := helper
  obtain ⟨⟩ := helper'
  simp_all [nameless]

namespace Render

variable {names : StructNames}

section Functions

variable {f f' : FunctionBinding}

theorem callMethod_alike (h : f.nameless = f'.nameless) (method : String) :
    AlikePages (callMethod names f method) (callMethod names f' method) := by
  obtain ⟨_, _, _, rfl⟩ := FunctionBinding.nameless_eq h
  exact (AlikePages.refl _).doc _ _

theorem transactionMethod_alike (h : f.nameless = f'.nameless) (method : String) :
    AlikePages (transactionMethod names f method) (transactionMethod names f' method) := by
  obtain ⟨_, _, _, rfl⟩ := FunctionBinding.nameless_eq h
  exact (AlikePages.refl _).doc _ _

theorem functionMethods_alike (h : f.nameless = f'.nameless) :
    AlikePages (functionMethods names f) (functionMethods names f') := by
  have hcall : f'.call = f.call := congrArg (·.call) h.symm
  have htransaction : f'.transaction = f.transaction := congrArg (·.transaction) h.symm
  simp only [functionMethods, hcall, htransaction]
  refine .append ?_ ?_
  · cases f.call with
    | none => exact .refl _
    | some method => exact .cons (.same _) (callMethod_alike h method)
  · cases f.transaction with
    | none => exact .refl _
    | some method => exact .cons (.same _) (transactionMethod_alike h method)

theorem encoder_alike (isPublic : Bool) (h : f.nameless = f'.nameless) :
    AlikePages (encoder names isPublic f) (encoder names isPublic f') := by
  obtain ⟨_, _, selector, rfl⟩ := FunctionBinding.nameless_eq h
  have hbytes : f.selector.toList.length = selector.toList.length := by simp
  have hline := Step.Alike.bytes "rt::encode_call(["
    ("], " ++ argumentTokens f.inputs ++ ")") hbytes
  unfold encoder
  refine .doc _ _ (.block _ _ (.cons ?_ .nil))
  simpa only [String.append_assoc] using hline

end Functions

section Records

theorem bytesConstant_alike (header : String) {xs ys : List UInt8} (h : xs.length = ys.length) :
    AlikePages (bytesConstant header xs) (bytesConstant header ys) := by
  have hl : ∀ bytes, (byteLiterals bytes).length = bytes.length := fun bytes => List.length_map ..
  unfold bytesConstant
  simp only [hl, h]
  split
  · exact .cons (.bytes (header ++ "[") "];" h) .nil
  · refine ((AlikePages.refl _).append ?_).append (.refl _)
    simp only [rows, hl, h, List.map_map]
    refine List.rel_map ?_ (List.forall₂_same.mpr fun _ _ => rfl : List.Forall₂ (· = ·) _ _)
    rintro i _ rfl
    have hlen : ((xs.drop (bytesPerLine * i)).take bytesPerLine).length =
        ((ys.drop (bytesPerLine * i)).take bytesPerLine).length := by simp [h]
    have hrow := Step.Alike.bytes "" "," hlen
    simpa [byteLiterals, List.map_take, List.map_drop] using hrow

theorem eventRecord_alike {e e' : EventBinding} (h : e.nameless = e'.nameless) :
    AlikePages (eventRecord names e) (eventRecord names e') := by
  obtain ⟨_, _, topic, rfl⟩ := EventBinding.nameless_eq h
  unfold eventRecord
  refine .apart ((AlikePages.refl _).doc _ _) (.block _ _ (.apart (.cons (.literal _ _ _ _) ?_)
    (.refl _)))
  split
  · exact .nil
  · exact bytesConstant_alike _ (by simp)

theorem errorRecord_alike {e e' : ErrorBinding} (h : e.nameless = e'.nameless) :
    AlikePages (errorRecord names e) (errorRecord names e') := by
  obtain ⟨_, _, selector, rfl⟩ := ErrorBinding.nameless_eq h
  unfold errorRecord
  exact .apart ((AlikePages.refl _).doc _ _) (.block _ _ (.apart (.cons (.literal _ _ _ _)
    (bytesConstant_alike _ (by simp))) (.refl _)))

theorem tupleStruct_nameless (d : StructDefinition) :
    tupleStruct names d.nameless = tupleStruct names d := by
  simp [tupleStruct, StructDefinition.nameless, StructField.nameless, Function.comp_def]

theorem tupleStruct_alike {d d' : StructDefinition} (h : d.nameless = d'.nameless) :
    AlikePages (tupleStruct names d) (tupleStruct names d') := by
  rw [← tupleStruct_nameless d, h, tupleStruct_nameless]
  exact .refl _

end Records

/-- The signature of the constructor is quoted once, in a comment. -/
theorem deployMethod_alike {helper helper' : DeployHelper}
    (h : helper.nameless = helper'.nameless) :
    AlikePages (deployMethod names helper) (deployMethod names helper') := by
  obtain ⟨_, rfl⟩ := DeployHelper.nameless_eq h
  exact (AlikePages.refl _).doc _ _

theorem filterMethod_alike {e e' : EventBinding} (h : e.nameless = e'.nameless) :
    AlikePages (filterMethod e) (filterMethod e') := by
  obtain ⟨_, _, _, rfl⟩ := EventBinding.nameless_eq h
  exact (AlikePages.refl _).doc _ _

section Modules

variable {b b' : ContractBindings}

theorem structName_nameless (b : ContractBindings) : structName b.nameless = structName b := by
  funext id
  simp only [structName, ContractBindings.structDef?, ContractBindings.nameless, List.getElem?_map]
  cases hd : b.structs[id]? with
  | none => rfl
  | some d =>
    by_cases he : d.id = id <;> simp [StructDefinition.nameless, Option.filter, he]

theorem contract_alike (h : b.nameless = b'.nameless) :
    AlikePages (contract names b) (contract names b') := by
  have htype : b.typeName = b'.typeName := congrArg (·.typeName) h
  have hfallback : b.hasFallback = b'.hasFallback := congrArg (·.hasFallback) h
  have hreceive : b.hasReceive = b'.hasReceive := congrArg (·.hasReceive) h
  have hdeploy : b.deploy.map (·.nameless) = b'.deploy.map (·.nameless) := congrArg (·.deploy) h
  have hfunctions : AlikePages (b.functions.flatMap (functionMethods names))
      (b'.functions.flatMap (functionMethods names)) :=
    .flatMap (forall₂_of_map (congrArg (·.functions) h)) fun _ _ hf => functionMethods_alike hf
  have hevents := AlikePages.sections (forall₂_of_map (congrArg (·.events) h))
    fun _ _ he => filterMethod_alike he
  have hsection : AlikePages (deploySection names b.deploy) (deploySection names b'.deploy) := by
    cases hd : b.deploy with
    | none =>
      rw [hd] at hdeploy
      rw [Option.map_eq_none_iff.mp hdeploy.symm]
      exact .nil
    | some helper =>
      rw [hd] at hdeploy
      obtain ⟨helper', hd', hn⟩ := Option.map_eq_some_iff.mp hdeploy.symm
      rw [hd']
      exact .cons (.same _) (deployMethod_alike hn.symm)
  unfold contract
  rw [htype, hfallback, hreceive]
  exact .apart ((AlikePages.refl _).doc _ _) (.block _ _
    (((((AlikePages.refl _).append hsection).append hfunctions).append hevents).append (.refl _)))

theorem header_alike (runtime : String) (h : b.modulePath = b'.modulePath) :
    AlikePages (header b runtime) (header b' runtime) := by
  have hcomment : ∀ name : String,
      (Step.line ("//! Bindings for the `" ++ name ++ "` contract.")).IsComment := by
    intro name
    have hmark : "//! Bindings for the `" = "//! " ++ "Bindings for the `" := rfl
    rw [hmark, String.append_assoc, String.append_assoc]
    exact ⟨_, .inr rfl⟩
  simp only [header, h]
  exact .cons (.comment (hcomment _) (hcomment _)) (AlikePages.refl _)

theorem bytecodeConstant_nameless (deploy : Option DeployHelper) :
    bytecodeConstant (deploy.map (·.nameless)) = bytecodeConstant deploy := by
  cases deploy <;> rfl

/-- Pages agree, raw texts apart, when their bindings have the same identifiers. -/
theorem page_alike (runtime : String) (h : b.nameless = b'.nameless) :
    AlikePages (page b runtime) (page b' runtime) := by
  have hnames : structName b = structName b' := by
    rw [← structName_nameless b, h, structName_nameless]
  have hpublic : b.publicEncoders = b'.publicEncoders := congrArg (·.publicEncoders) h
  have hbytecode : bytecodeConstant b.deploy = bytecodeConstant b'.deploy := by
    have hdeploy : b.deploy.map (·.nameless) = b'.deploy.map (·.nameless) := congrArg (·.deploy) h
    rw [← bytecodeConstant_nameless b.deploy, hdeploy, bytecodeConstant_nameless]
  have hmodule : b.modulePath = b'.modulePath := congrArg (·.modulePath) h
  have hstructs := forall₂_of_map (congrArg (·.structs) h)
  have hfunctions := forall₂_of_map (congrArg (·.functions) h)
  have hevents := forall₂_of_map (congrArg (·.events) h)
  have herrors := forall₂_of_map (congrArg (·.errors) h)
  simp only [page, hnames, hpublic, hbytecode]
  refine .append (.apart (.append (.append (.append (.append (header_alike runtime hmodule)
    (.refl _)) (.sections hstructs ?_)) (.sections hevents ?_)) (.sections herrors ?_))
    (contract_alike h)) (.sections hfunctions ?_)
  · exact fun _ _ hd => tupleStruct_alike hd
  · exact fun _ _ he => eventRecord_alike he
  · exact fun _ _ he => errorRecord_alike he
  · exact fun _ _ hf => encoder_alike _ hf

end Modules

end Render

end AbiBindings
