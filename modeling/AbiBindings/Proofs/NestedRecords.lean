import AbiBindings.Proofs.NestedSteps
import AbiBindings.Proofs.UnbrokenRecords

namespace AbiBindings

namespace Render

section Expressions

variable {names : StructNames}

theorem closed_commaList {items : List String} (h : ∀ item ∈ items, Closed item) :
    Closed (commaList items) :=
  closed_intercalate (.ofList rfl) h

theorem closed_nativeText (n : NativeInt) : Closed n.text := by
  refine closed_append ?_ (closed_toString _)
  split <;> exact .ofList rfl

theorem closed_typeName (hn : ∀ id, Closed (names id)) (t : Target) :
    Closed (typeName names t) := by
  induction t with
  | native n => exact closed_nativeText n
  | fixedBytes size => exact .fill (.ofList rfl) (closed_toString size) (.ofList rfl)
  | vec element ih => exact .fill (.ofList rfl) ih (.ofList rfl)
  | array element length ih =>
    exact .fill (.fill (.ofList rfl) ih (.ofList rfl)) (closed_toString length) (.ofList rfl)
  | struct id => exact hn id
  | _ => exact .ofList rfl

theorem closed_elementaryParamType (e : Elementary) : Closed (elementaryParamType e) := by
  cases e with
  | uint n | int n | fixedBytes n => exact .fill (.ofList rfl) (closed_toString n) (.ofList rfl)
  | _ => exact .ofList rfl

theorem closed_paramType (hn : ∀ id, Closed (names id)) (w : Wire) :
    Closed (paramType names w) := by
  induction w with
  | elementary e => exact closed_elementaryParamType e
  | array element length ih =>
    cases length with
    | none => exact .fill (.ofList rfl) ih (.ofList rfl)
    | some n =>
      exact .fill (.fill (.ofList rfl) ih (.ofList rfl)) (closed_toString n) (.ofList rfl)
  | tuple id => exact closed_append (hn id) (.ofList rfl)

theorem closed_paramTypes (hn : ∀ id, Closed (names id)) (wires : List Wire) :
    Closed (paramTypes names wires) := by
  refine .fill (.ofList rfl) (closed_commaList ?_) (.ofList rfl)
  exact List.forall_mem_map.mpr fun w _ => closed_paramType hn w

theorem closed_itemName (depth : Nat) : Closed (itemName depth) :=
  closed_append (.ofList rfl) (closed_toString depth)

theorem closed_arrayToken {value item element : String} (length : Option Nat)
    (hv : Closed value) (hi : Closed item) (he : Closed element) :
    Closed (arrayToken value item element length) := by
  have hvariant : Closed (arrayVariant length) := by
    cases length <;> exact .ofList rfl
  exact .fill (.fill (.fill (.fill (.ofList rfl) hvariant (.ofList rfl)) hv (.ofList rfl)) hi
    (.ofList rfl)) he (.ofList rfl)

theorem closed_intoToken (w : Wire) (t : Target) (value : String) (depth : Nat)
    (hv : Closed value) : Closed (intoToken w t value depth) := by
  fun_induction intoToken w t value depth with
  | case5 value depth wire length target ih | case6 value depth wire length target _ ih =>
    exact closed_arrayToken _ hv (closed_itemName _) (ih (closed_itemName _))
  | case7 => exact closed_append hv (.ofList rfl)
  | _ => exact .fill (.ofList rfl) hv (.ofList rfl)

/-- The expression for an array is closed when the one for its element is. -/
theorem closed_fromToken (hn : ∀ id, Closed (names id)) (w : Wire) (t : Target)
    (value : String) (depth : Nat) (hv : Closed value) :
    Closed (fromToken names w t value depth) := by
  fun_induction fromToken names w t value depth with
  | case3 value depth size =>
    exact .fill (.fill (.ofList rfl) (closed_toString _) (.ofList rfl)) hv (.ofList rfl)
  | case5 value depth wire target ih =>
    exact .fill (.fill (.fill (.ofList rfl) hv (.ofList rfl)) (closed_itemName _) (.ofList rfl))
      (ih (closed_itemName _)) (.ofList rfl)
  | case6 value depth wire length target _ ih =>
    exact .fill (.fill (.fill (.fill (.ofList rfl) (closed_toString _) (.ofList rfl)) hv
      (.ofList rfl)) (closed_itemName _) (.ofList rfl)) (ih (closed_itemName _)) (.ofList rfl)
  | case7 =>
    exact .fill (.fill (.ofList rfl) (closed_typeName hn _) (.ofList rfl)) hv (.ofList rfl)
  | _ => exact .fill (.ofList rfl) hv (.ofList rfl)

theorem closed_byteLiterals (bytes : List UInt8) : ∀ item ∈ byteLiterals bytes, Closed item :=
  List.forall_mem_map.mpr fun byte _ =>
    closed_append (.ofList rfl) (Text.isWord_hexByte byte).closed

theorem closed_numberedNames {label : String} (hl : Closed label) (count : Nat) :
    ∀ name ∈ numberedNames label count, Closed name :=
  List.forall_mem_map.mpr fun i _ => closed_append hl (closed_toString i)

theorem closed_bindLocals {locals : List String} {expression : String}
    (hl : ∀ name ∈ locals, Closed name) (he : Closed expression) :
    Closed (bindLocals locals expression) := by
  simp only [bindLocals]
  split
  · exact he
  · exact .then_closed (.fill (.ofList rfl) (closed_commaList hl) (.ofList rfl)) he

end Expressions

section Records

variable {names : StructNames} {fields : List (String × String)}

theorem recordStruct_nests {name : String} (hn : Closed name)
    (hf : ∀ f ∈ fields, Closed f.1 ∧ Closed f.2) : Nests (recordStruct name fields) := by
  have hheader : Closed ("pub struct " ++ name) := .then_closed (.ofList rfl) hn
  refine .line (.code (.ofList rfl)) ?_
  split
  · exact .line (.code (.append hheader (.ofList rfl))) .nil
  · refine .block hheader (.lines fun f hm => ?_) (.ofList rfl)
    obtain ⟨hfield, htype⟩ := hf f hm
    exact .fill (.fill (.ofList rfl) hfield (.ofList rfl)) htype (.ofList rfl)

theorem selfLiteral_nests (hf : ∀ f ∈ fields, Closed f.1 ∧ Closed f.2) :
    Nests (selfLiteral fields) := by
  unfold selfLiteral
  split
  · exact .line (.code (.ofList rfl)) .nil
  · refine .block (.ofList rfl) (.lines fun f hm => ?_) (.ofList rfl)
    obtain ⟨hfield, hvalue⟩ := hf f hm
    exact .append (.then_closed (.append hfield (.ofList rfl)) hvalue) (.ofList rfl)

/-- A list is nested when its frame opens and closes the same brackets. -/
theorem itemList_nests {opening closing : String} {opened : List Bracket} {items : List String}
    (ho : Code opening [] opened) (hi : ∀ item ∈ items, Closed item)
    (hc : Code closing opened []) : Nests (itemList opening items closing) := by
  unfold itemList
  split
  · exact .line (.code (ho.append hc)) .nil
  · rw [List.append_assoc]
    refine .deeper ho (.lines fun item hm => ?_) hc .nil
    exact .append (hi item hm) (.ofList rfl)

theorem bytesConstant_nests {header : String} (hh : Closed header) (bytes : List UInt8) :
    Nests (bytesConstant header bytes) := by
  have hliterals := closed_byteLiterals bytes
  have hopen : Code (header ++ "[") [] [.square] := .append hh (.ofList rfl)
  simp only [bytesConstant]
  split
  · exact .line (.code (.fill hopen (closed_commaList hliterals) (.ofList rfl))) .nil
  · rw [List.append_assoc]
    refine .deeper hopen (.lines fun row hr => ?_) (.ofList rfl) .nil
    obtain ⟨i, _, rfl⟩ := List.mem_map.mp hr
    refine .append (closed_commaList fun item hm => ?_) (.ofList rfl)
    exact hliterals item (List.mem_of_mem_drop (List.mem_of_mem_take hm))

theorem closed_readFields (hn : ∀ id, Closed (names id)) {locals : List String}
    {typed : List (String × Resolved)} (hl : ∀ name ∈ locals, Closed name)
    (hf : ∀ f ∈ typed, Closed f.1) :
    ∀ f ∈ readFields names locals typed, Closed f.1 ∧ Closed f.2 := by
  refine List.forall_mem_map.mpr fun x hx => ?_
  obtain ⟨hfield, hlocal⟩ := List.of_mem_zip hx
  exact ⟨hf x.1 hfield, .append (closed_fromToken hn _ _ _ _ (hl x.2 hlocal)) (.ofList rfl)⟩

theorem tupleStruct_nests (hn : ∀ id, Closed (names id)) {d : StructDefinition}
    (hd : d.Worded) : Nests (tupleStruct names d) := by
  have hname := hd.name.closed
  have hfields : ∀ f ∈ d.fields, Closed f.name := fun f hf => (hd.fields f hf).closed
  have hlocals : ∀ name ∈ numberedNames "token" d.fields.length, Closed name :=
    closed_numberedNames (.ofList rfl) _
  have hread := closed_readFields hn hlocals
    (List.forall_mem_map.mpr hfields : ∀ f ∈ d.fields.map fun f => (f.name, f.type), Closed f.1)
  have hunpack : Closed ("rt::unpack_tuple::<"
      ++ toString (numberedNames "token" d.fields.length).length ++ ">(token)?;") :=
    .fill (.ofList rfl) (closed_toString _) (.ofList rfl)
  have hparams : ∀ item ∈ d.fields.map fun f => paramType names f.type.wire, Closed item :=
    List.forall_mem_map.mpr fun f _ => closed_paramType hn _
  have htokens : ∀ item ∈ d.fields.map fun f =>
      intoToken f.type.wire f.type.target ("self." ++ f.name) 0, Closed item :=
    List.forall_mem_map.mpr fun f hf =>
      closed_intoToken _ _ _ _ (.then_closed (.ofList rfl) (hfields f hf))
  unfold tupleStruct
  refine .apart (recordStruct_nests hname ?types) (.block (.then_closed (.ofList rfl) hname)
    (.apart (.apart ?params ?tokens) ?values) (.ofList rfl))
  case types => exact List.forall_mem_map.mpr fun f hf => ⟨hfields f hf, closed_typeName hn _⟩
  case params =>
    exact .block (.ofList rfl) (itemList_nests (.ofList rfl) hparams (.ofList rfl)) (.ofList rfl)
  case tokens =>
    exact .block (.ofList rfl) (itemList_nests (.ofList rfl) htokens (.ofList rfl)) (.ofList rfl)
  case values =>
    exact .block (.ofList rfl)
      (.line (.code (closed_bindLocals hlocals hunpack)) (selfLiteral_nests hread)) (.ofList rfl)

theorem closed_eventFieldValue (hn : ∀ id, Closed (names id)) (f : EventField) :
    Closed (eventFieldValue names f) := by
  unfold eventFieldValue
  split
  · split
    · exact .fill (.ofList rfl) (closed_toString _) (.ofList rfl)
    · refine .append (closed_fromToken hn _ _ _ _ ?_) (.ofList rfl)
      exact .fill (.fill (.ofList rfl) (closed_toString _) (.ofList rfl)) (closed_paramType hn _)
        (.ofList rfl)
  · refine .append (closed_fromToken hn _ _ _ _ ?_) (.ofList rfl)
    exact closed_append (.ofList rfl) (closed_toString _)

/-- A call of the runtime that takes the number of values and the types they are read by. -/
theorem closed_decode (hn : ∀ id, Closed (names id)) {call middle rest : String}
    {xs ys : List Bracket} (count : Nat) (wires : List Wire) (hc : Code call [] xs)
    (hm : Code middle xs ys) (hr : Code rest ys []) :
    Closed (call ++ toString count ++ middle ++ paramTypes names wires ++ rest) :=
  .fill (.fill hc (closed_toString _) hm) (closed_paramTypes hn wires) hr

theorem decodeLog_nests (hn : ∀ id, Closed (names id)) {e : EventBinding} (he : e.Worded) :
    Nests (decodeLog names e) := by
  have hexpected : Closed (if e.anonymous then "None" else "Some(&Self::TOPIC)") := by
    split <;> exact .ofList rfl
  have hlocals : ∀ name ∈ numberedNames "data" e.dataFields.length, Closed name :=
    closed_numberedNames (.ofList rfl) _
  unfold decodeLog
  refine .append (.line (.code ?check) ?data) (selfLiteral_nests ?fields)
  case check =>
    exact .fill (.fill (.ofList rfl) (closed_toString _) (.ofList rfl)) hexpected (.ofList rfl)
  case data =>
    split
    · exact .nil
    · exact .line (.code (closed_bindLocals hlocals
        (closed_decode hn _ _ (.ofList rfl) (.ofList rfl) (.ofList rfl)))) .nil
  case fields =>
    exact List.forall_mem_map.mpr fun f hf =>
      ⟨(he.fields f hf).closed, closed_eventFieldValue hn f⟩

/-- The constant that holds a raw signature. -/
theorem lineCode_signature (signature : String) : LineCode
    ("pub const SIGNATURE: &'static str = " ++ Text.quoted signature ++ ";") [] [] :=
  .literal signature ⟨rfl, by decide, by decide⟩ (.ofList rfl) (.ofList rfl)

theorem eventRecord_nests (hn : ∀ id, Closed (names id)) {e : EventBinding} (he : e.Worded) :
    Nests (eventRecord names e) := by
  have hrecord := he.record.closed
  unfold eventRecord
  refine .apart (.doc _ (recordStruct_nests hrecord ?types))
    (.block (.then_closed (.ofList rfl) hrecord) (.apart (.line (lineCode_signature _) ?topic)
      (.block (.ofList rfl) (decodeLog_nests hn he) (.ofList rfl))) (.ofList rfl))
  case types =>
    exact List.forall_mem_map.mpr fun f hf => ⟨(he.fields f hf).closed, closed_typeName hn _⟩
  case topic =>
    split
    · exact .nil
    · exact bytesConstant_nests (.ofList rfl) _

theorem errorRecord_nests (hn : ∀ id, Closed (names id)) {e : ErrorBinding} (he : e.Worded) :
    Nests (errorRecord names e) := by
  have hrecord := he.record.closed
  have hfields : ∀ f ∈ e.fields, Closed f.name := fun f hf => (he.fields f hf).closed
  have hlocals : ∀ name ∈ numberedNames "data" e.fields.length, Closed name :=
    closed_numberedNames (.ofList rfl) _
  have hread := closed_readFields hn hlocals
    (List.forall_mem_map.mpr hfields : ∀ f ∈ e.fields.map fun f => (f.name, f.type), Closed f.1)
  unfold errorRecord
  refine .apart (.doc _ (recordStruct_nests hrecord ?types))
    (.block (.then_closed (.ofList rfl) hrecord)
      (.apart (.line (lineCode_signature _) (bytesConstant_nests (.ofList rfl) _)) (.doc _ ?decode))
      (.ofList rfl))
  case types => exact List.forall_mem_map.mpr fun f hf => ⟨hfields f hf, closed_typeName hn _⟩
  case decode =>
    refine .block (.ofList rfl) (.line (.code (closed_bindLocals hlocals ?_))
      (selfLiteral_nests hread)) (.ofList rfl)
    exact closed_decode hn _ _ (.ofList rfl) (.ofList rfl) (.ofList rfl)

end Records

end Render

end AbiBindings
