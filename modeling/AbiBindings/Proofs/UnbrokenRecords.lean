import AbiBindings.Proofs.Unbroken
import AbiBindings.Proofs.WordBindings

namespace AbiBindings.Render

section Expressions

variable {names : StructNames}

theorem unbroken_commaList {items : List String} (h : ∀ item ∈ items, Unbroken item) :
    Unbroken (commaList items) :=
  unbroken_intercalate (unbroken_ofList (by decide)) h

theorem unbroken_nativeText (n : NativeInt) : Unbroken n.text := by
  refine unbroken_append.mpr ⟨?_, unbroken_toString _⟩
  split <;> exact unbroken_ofList (by decide)

theorem unbroken_typeName (hn : ∀ id, Unbroken (names id)) (t : Target) :
    Unbroken (typeName names t) := by
  induction t with
  | native n => exact unbroken_nativeText n
  | fixedBytes size =>
    exact unbroken_around (unbroken_ofList (by decide)) (unbroken_toString size)
      (unbroken_ofList (by decide))
  | vec element ih =>
    exact unbroken_around (unbroken_ofList (by decide)) ih (unbroken_ofList (by decide))
  | array element length ih =>
    exact unbroken_around
      (unbroken_around (unbroken_ofList (by decide)) ih (unbroken_ofList (by decide)))
      (unbroken_toString length) (unbroken_ofList (by decide))
  | struct id => exact hn id
  | _ => exact unbroken_ofList (by decide)

theorem unbroken_elementaryParamType (e : Elementary) : Unbroken (elementaryParamType e) := by
  cases e with
  | uint n | int n | fixedBytes n =>
    exact unbroken_around (unbroken_ofList (by decide)) (unbroken_toString n)
      (unbroken_ofList (by decide))
  | _ => exact unbroken_ofList (by decide)

theorem unbroken_paramType (hn : ∀ id, Unbroken (names id)) (w : Wire) :
    Unbroken (paramType names w) := by
  induction w with
  | elementary e => exact unbroken_elementaryParamType e
  | array element length ih =>
    cases length with
    | none => exact unbroken_around (unbroken_ofList (by decide)) ih (unbroken_ofList (by decide))
    | some n =>
      exact unbroken_around
        (unbroken_around (unbroken_ofList (by decide)) ih (unbroken_ofList (by decide)))
        (unbroken_toString n) (unbroken_ofList (by decide))
  | tuple id => exact unbroken_append.mpr ⟨hn id, unbroken_ofList (by decide)⟩

theorem unbroken_paramTypes (hn : ∀ id, Unbroken (names id)) (wires : List Wire) :
    Unbroken (paramTypes names wires) := by
  have hitems : Unbroken (commaList (wires.map (paramType names))) := by
    refine unbroken_commaList fun item hi => ?_
    obtain ⟨w, _, rfl⟩ := List.mem_map.mp hi
    exact unbroken_paramType hn w
  simp only [paramTypes, unbroken_append, hitems, and_true]
  and_intros <;> exact unbroken_ofList (by decide)

theorem unbroken_itemName (depth : Nat) : Unbroken (itemName depth) := by
  simp only [itemName, unbroken_append, unbroken_toString, and_true]
  exact unbroken_ofList (by decide)

theorem unbroken_arrayToken {value item element : String} (length : Option Nat)
    (hv : Unbroken value) (hi : Unbroken item) (he : Unbroken element) :
    Unbroken (arrayToken value item element length) := by
  have hvariant : Unbroken (arrayVariant length) := by
    cases length <;> exact unbroken_ofList (by decide)
  unfold arrayToken
  simp only [unbroken_append, hvariant, hv, hi, he, and_true]
  and_intros <;> exact unbroken_ofList (by decide)

theorem unbroken_intoToken (w : Wire) (t : Target) (value : String) (depth : Nat)
    (hv : Unbroken value) : Unbroken (intoToken w t value depth) := by
  fun_induction intoToken w t value depth with
  | case5 value depth wire length target ih | case6 value depth wire length target _ ih =>
    exact unbroken_arrayToken _ hv (unbroken_itemName _) (ih (unbroken_itemName _))
  | _ =>
    simp only [unbroken_append, hv, and_true, true_and]
    and_intros <;> exact unbroken_ofList (by decide)

theorem unbroken_fromToken (hn : ∀ id, Unbroken (names id)) (w : Wire) (t : Target)
    (value : String) (depth : Nat) (hv : Unbroken value) :
    Unbroken (fromToken names w t value depth) := by
  fun_induction fromToken names w t value depth with
  | case5 value depth wire target ih | case6 value depth wire length target _ ih =>
    simp only [unbroken_append, unbroken_toString, unbroken_itemName, hv, ih (unbroken_itemName _),
      and_true]
    and_intros <;> exact unbroken_ofList (by decide)
  | _ =>
    simp only [unbroken_append, unbroken_toString, unbroken_typeName hn, hv, and_true]
    and_intros <;> exact unbroken_ofList (by decide)

theorem unbroken_byteLiterals (bytes : List UInt8) :
    ∀ item ∈ byteLiterals bytes, Unbroken item := by
  intro item hi
  obtain ⟨byte, _, rfl⟩ := List.mem_map.mp hi
  exact unbroken_append.mpr ⟨unbroken_ofList (by decide), (Text.isWord_hexByte byte).unbroken⟩

theorem unbroken_numberedNames {label : String} (hl : Unbroken label) (count : Nat) :
    ∀ name ∈ numberedNames label count, Unbroken name := by
  intro name hm
  obtain ⟨i, _, rfl⟩ := List.mem_map.mp hm
  exact unbroken_append.mpr ⟨hl, unbroken_toString i⟩

theorem unbroken_bindLocals {locals : List String} {expression : String}
    (hl : ∀ name ∈ locals, Unbroken name) (he : Unbroken expression) :
    Unbroken (bindLocals locals expression) := by
  simp only [bindLocals]
  split
  · exact he
  · simp only [unbroken_append, unbroken_commaList hl, he, and_true]
    and_intros <;> exact unbroken_ofList (by decide)

end Expressions

section Records

variable {names : StructNames} {fields : List (String × String)}

theorem unbroken_docLine {text : String} (h : Unbroken text) : (docLine text).Unbroken :=
  unbroken_append.mpr ⟨unbroken_ofList (by decide), h⟩

/-- A block breaks no line when its parts break none. -/
theorem unbroken_block {header close : String} {body : List Step} (hh : Unbroken header)
    (hb : ∀ s ∈ body, s.Unbroken) (hc : Unbroken close) :
    ∀ s ∈ block header body close, s.Unbroken := by
  have hopen : Unbroken (header ++ " \x7b") := unbroken_append.mpr ⟨hh, unbroken_ofList (by decide)⟩
  simp only [block, List.forall_mem_append, List.forall_mem_cons]
  exact ⟨⟨⟨hopen, trivial, by simp⟩, hb⟩, trivial, hc, by simp⟩

/-- Two parts with an empty line between them. -/
theorem unbroken_apart {before after : List Step} (hb : ∀ s ∈ before, s.Unbroken)
    (ha : ∀ s ∈ after, s.Unbroken) : ∀ s ∈ before ++ .blank :: after, s.Unbroken :=
  List.forall_mem_append.mpr ⟨hb, List.forall_mem_cons.mpr ⟨trivial, ha⟩⟩

theorem unbroken_recordStruct {name : String} (hn : Unbroken name)
    (hf : ∀ f ∈ fields, Unbroken f.1 ∧ Unbroken f.2) :
    ∀ s ∈ recordStruct name fields, s.Unbroken := by
  have hheader : Unbroken ("pub struct " ++ name) :=
    unbroken_append.mpr ⟨unbroken_ofList (by decide), hn⟩
  refine List.forall_mem_cons.mpr ⟨unbroken_ofList (by decide), ?_⟩
  split
  · exact List.forall_mem_singleton.mpr
      (unbroken_append.mpr ⟨hheader, unbroken_ofList (by decide)⟩)
  · refine unbroken_block hheader ?_ (unbroken_ofList (by decide))
    refine List.forall_mem_map.mpr fun f hm => ?_
    obtain ⟨hfield, htype⟩ := hf f hm
    simp only [Step.Unbroken, unbroken_append, hfield, htype, and_true]
    and_intros <;> exact unbroken_ofList (by decide)

theorem unbroken_selfLiteral (hf : ∀ f ∈ fields, Unbroken f.1 ∧ Unbroken f.2) :
    ∀ s ∈ selfLiteral fields, s.Unbroken := by
  simp only [selfLiteral]
  split
  · exact List.forall_mem_singleton.mpr (unbroken_ofList (by decide))
  · refine unbroken_block (unbroken_ofList (by decide)) ?_ (unbroken_ofList (by decide))
    refine List.forall_mem_map.mpr fun f hm => ?_
    obtain ⟨hfield, hvalue⟩ := hf f hm
    simp only [Step.Unbroken, unbroken_append, hfield, hvalue, and_true, true_and]
    and_intros <;> exact unbroken_ofList (by decide)

/-- A list with an item a line breaks no line when its items break none. -/
theorem unbroken_itemList {opening closing : String} {items : List String} (ho : Unbroken opening)
    (hi : ∀ item ∈ items, Unbroken item) (hc : Unbroken closing) :
    ∀ s ∈ itemList opening items closing, s.Unbroken := by
  simp only [itemList]
  split
  · exact List.forall_mem_singleton.mpr (unbroken_append.mpr ⟨ho, hc⟩)
  · simp only [List.forall_mem_append, List.forall_mem_cons, List.forall_mem_map]
    refine ⟨⟨⟨ho, trivial, by simp⟩, fun item hm => ?_⟩, trivial, hc, by simp⟩
    exact unbroken_append.mpr ⟨hi item hm, unbroken_ofList (by decide)⟩

theorem unbroken_bytesConstant {header : String} (hh : Unbroken header) (bytes : List UInt8) :
    ∀ s ∈ bytesConstant header bytes, s.Unbroken := by
  have hliterals := unbroken_byteLiterals bytes
  simp only [bytesConstant]
  split
  · refine List.forall_mem_singleton.mpr ?_
    simp only [Step.Unbroken, unbroken_append, hh, unbroken_commaList hliterals, true_and, and_true]
    and_intros <;> exact unbroken_ofList (by decide)
  · simp only [List.forall_mem_append, List.forall_mem_cons, List.forall_mem_map]
    refine ⟨⟨⟨unbroken_append.mpr ⟨hh, unbroken_ofList (by decide)⟩, trivial, by simp⟩, ?_⟩,
      trivial, unbroken_ofList (by decide), by simp⟩
    intro row hr
    obtain ⟨i, _, rfl⟩ := List.mem_map.mp hr
    refine unbroken_append.mpr ⟨unbroken_commaList fun item hm => ?_, unbroken_ofList (by decide)⟩
    exact hliterals item (List.mem_of_mem_drop (List.mem_of_mem_take hm))

theorem unbroken_readFields (hn : ∀ id, Unbroken (names id)) {locals : List String}
    {typed : List (String × Resolved)} (hl : ∀ name ∈ locals, Unbroken name)
    (hf : ∀ f ∈ typed, Unbroken f.1) :
    ∀ f ∈ readFields names locals typed, Unbroken f.1 ∧ Unbroken f.2 := by
  refine List.forall_mem_map.mpr fun x hx => ?_
  obtain ⟨hfield, hlocal⟩ := List.of_mem_zip hx
  exact ⟨hf x.1 hfield, unbroken_append.mpr
    ⟨unbroken_fromToken hn _ _ _ _ (hl x.2 hlocal), unbroken_ofList (by decide)⟩⟩

theorem unbroken_tupleStruct (hn : ∀ id, Unbroken (names id)) {d : StructDefinition}
    (hd : d.Worded) : ∀ s ∈ tupleStruct names d, s.Unbroken := by
  have hname := hd.name.unbroken
  have hfields : ∀ f ∈ d.fields, Unbroken f.name := fun f hf => (hd.fields f hf).unbroken
  have hlocals : ∀ name ∈ numberedNames "token" d.fields.length, Unbroken name :=
    unbroken_numberedNames (unbroken_ofList (by decide)) _
  have hread := unbroken_readFields hn hlocals
    (List.forall_mem_map.mpr hfields : ∀ f ∈ d.fields.map fun f => (f.name, f.type), Unbroken f.1)
  have hunpack : Unbroken ("rt::unpack_tuple::<"
      ++ toString (numberedNames "token" d.fields.length).length ++ ">(token)?;") :=
    unbroken_around (unbroken_ofList (by decide)) (unbroken_toString _)
      (unbroken_ofList (by decide))
  unfold tupleStruct
  refine unbroken_apart (unbroken_recordStruct hname ?types) (unbroken_block ?impl (unbroken_apart
    (unbroken_apart (unbroken_block ?_ (unbroken_itemList ?_ ?params ?_) ?_)
      (unbroken_block ?_ (unbroken_itemList ?_ ?tokens ?_) ?_))
    (unbroken_block ?_ (List.forall_mem_cons.mpr
      ⟨unbroken_bindLocals hlocals hunpack, unbroken_selfLiteral hread⟩) ?_)) ?_)
  case types => exact List.forall_mem_map.mpr fun f hf => ⟨hfields f hf, unbroken_typeName hn _⟩
  case impl => exact unbroken_append.mpr ⟨unbroken_ofList (by decide), hname⟩
  case params => exact List.forall_mem_map.mpr fun f _ => unbroken_paramType hn _
  case tokens =>
    refine List.forall_mem_map.mpr fun f hf => unbroken_intoToken _ _ _ _ ?_
    exact unbroken_append.mpr ⟨unbroken_ofList (by decide), hfields f hf⟩
  all_goals exact unbroken_ofList (by decide)

theorem unbroken_eventFieldValue (hn : ∀ id, Unbroken (names id)) (f : EventField) :
    Unbroken (eventFieldValue names f) := by
  unfold eventFieldValue
  split
  · split
    · exact unbroken_around (unbroken_ofList (by decide)) (unbroken_toString _)
        (unbroken_ofList (by decide))
    · refine unbroken_append.mpr ⟨unbroken_fromToken hn _ _ _ _ ?_, unbroken_ofList (by decide)⟩
      exact unbroken_around (unbroken_around (unbroken_ofList (by decide)) (unbroken_toString _)
        (unbroken_ofList (by decide))) (unbroken_paramType hn _) (unbroken_ofList (by decide))
  · refine unbroken_append.mpr ⟨unbroken_fromToken hn _ _ _ _ ?_, unbroken_ofList (by decide)⟩
    exact unbroken_append.mpr ⟨unbroken_ofList (by decide), unbroken_toString _⟩

/-- A call of the runtime that takes the number of values and the types they are read by. -/
theorem unbroken_decode (hn : ∀ id, Unbroken (names id)) {call middle rest : String} (count : Nat)
    (wires : List Wire) (hc : Unbroken call) (hm : Unbroken middle) (hr : Unbroken rest) :
    Unbroken (call ++ toString count ++ middle ++ paramTypes names wires ++ rest) :=
  unbroken_around (unbroken_around hc (unbroken_toString count) hm) (unbroken_paramTypes hn wires)
    hr

theorem unbroken_decodeLog (hn : ∀ id, Unbroken (names id)) {e : EventBinding} (he : e.Worded) :
    ∀ s ∈ decodeLog names e, s.Unbroken := by
  have hexpected : Unbroken (if e.anonymous then "None" else "Some(&Self::TOPIC)") := by
    split <;> exact unbroken_ofList (by decide)
  have hlocals : ∀ name ∈ numberedNames "data" e.dataFields.length, Unbroken name :=
    unbroken_numberedNames (unbroken_ofList (by decide)) _
  unfold decodeLog
  refine List.forall_mem_append.mpr ⟨List.forall_mem_cons.mpr ⟨?check, ?_⟩,
    unbroken_selfLiteral ?fields⟩
  case check =>
    exact unbroken_around (unbroken_around (unbroken_ofList (by decide)) (unbroken_toString _)
      (unbroken_ofList (by decide))) hexpected (unbroken_ofList (by decide))
  case fields =>
    exact List.forall_mem_map.mpr fun f hf =>
      ⟨(he.fields f hf).unbroken, unbroken_eventFieldValue hn f⟩
  split
  · simp
  · refine List.forall_mem_singleton.mpr
      (unbroken_bindLocals hlocals (unbroken_decode hn _ _ ?_ ?_ ?_))
    all_goals exact unbroken_ofList (by decide)

/-- The constant that holds a raw signature. -/
theorem unbroken_signatureConstant (signature : String) :
    Unbroken ("pub const SIGNATURE: &'static str = " ++ Text.quoted signature ++ ";") :=
  unbroken_around (unbroken_ofList (by decide)) (Text.unbroken_quoted signature)
    (unbroken_ofList (by decide))

theorem unbroken_eventRecord (hn : ∀ id, Unbroken (names id)) {e : EventBinding} (he : e.Worded)
    (hs : Unbroken e.signature) : ∀ s ∈ eventRecord names e, s.Unbroken := by
  have hrecord := he.record.unbroken
  have hkind : Unbroken (if e.anonymous then "anonymous event" else "event") := by
    split <;> exact unbroken_ofList (by decide)
  unfold eventRecord
  refine unbroken_apart (List.forall_mem_cons.mpr ⟨unbroken_docLine ?doc,
    unbroken_recordStruct hrecord ?types⟩) (unbroken_block ?impl (unbroken_apart
      (List.forall_mem_cons.mpr ⟨unbroken_signatureConstant _, ?topic⟩)
      (unbroken_block ?_ (unbroken_decodeLog hn he) ?_)) ?_)
  case doc =>
    exact unbroken_around (unbroken_around (unbroken_ofList (by decide)) hs
      (unbroken_ofList (by decide))) hkind (unbroken_ofList (by decide))
  case types =>
    exact List.forall_mem_map.mpr fun f hf =>
      ⟨(he.fields f hf).unbroken, unbroken_typeName hn _⟩
  case impl => exact unbroken_append.mpr ⟨unbroken_ofList (by decide), hrecord⟩
  case topic =>
    split
    · simp
    · exact unbroken_bytesConstant (unbroken_ofList (by decide)) _
  all_goals exact unbroken_ofList (by decide)

theorem unbroken_errorRecord (hn : ∀ id, Unbroken (names id)) {e : ErrorBinding} (he : e.Worded)
    (hs : Unbroken e.signature) : ∀ s ∈ errorRecord names e, s.Unbroken := by
  have hrecord := he.record.unbroken
  have hfields : ∀ f ∈ e.fields, Unbroken f.name := fun f hf => (he.fields f hf).unbroken
  have hlocals : ∀ name ∈ numberedNames "data" e.fields.length, Unbroken name :=
    unbroken_numberedNames (unbroken_ofList (by decide)) _
  have hread := unbroken_readFields hn hlocals
    (List.forall_mem_map.mpr hfields : ∀ f ∈ e.fields.map fun f => (f.name, f.type), Unbroken f.1)
  unfold errorRecord
  refine unbroken_apart (List.forall_mem_cons.mpr ⟨unbroken_docLine ?doc,
    unbroken_recordStruct hrecord ?types⟩) (unbroken_block ?impl (unbroken_apart
      (List.forall_mem_cons.mpr ⟨unbroken_signatureConstant _, unbroken_bytesConstant ?_ _⟩)
      (List.forall_mem_cons.mpr ⟨unbroken_docLine ?_, unbroken_block ?_ (List.forall_mem_cons.mpr
        ⟨unbroken_bindLocals hlocals (unbroken_decode hn _ _ ?_ ?_ ?_),
          unbroken_selfLiteral hread⟩) ?_⟩)) ?_)
  case doc => exact unbroken_around (unbroken_ofList (by decide)) hs (unbroken_ofList (by decide))
  case types => exact List.forall_mem_map.mpr fun f hf => ⟨hfields f hf, unbroken_typeName hn _⟩
  case impl => exact unbroken_append.mpr ⟨unbroken_ofList (by decide), hrecord⟩
  all_goals exact unbroken_ofList (by decide)

end Records

end AbiBindings.Render
