import AbiBindings.Proofs.Compilation

namespace AbiBindings

/-- A function has the name, the arguments and the results of its declaration. It has a calling
method if it only reads and a sending one if it does not, or both on request. -/
structure FunctionBinding.Carries (f : FunctionBinding) (options : Options)
    (keys : List ShapeKey) (d : Declaration) : Prop where
  abiName : f.abiName = d.nameOrKind
  inputNames : f.inputs.map (·.name) = claimedNames "param" d.inputs
  inputs : Settled options.representation keys d.inputs (f.inputs.map (·.type))
  outputNames : f.outputs.map (·.name) = claimedNames "value" d.outputs
  outputs : Settled options.representation keys d.outputs (f.outputs.map (·.type))
  call : f.call.isSome = true ↔
    d.mutability = .pure ∨ d.mutability = .view ∨ options.callAndSend = true
  transaction : f.transaction.isSome = true ↔
    (d.mutability ≠ .pure ∧ d.mutability ≠ .view) ∨ options.callAndSend = true

/-- An event has a field for each input, with what a log keeps of its type. -/
structure EventBinding.Carries (e : EventBinding) (mode : Representation) (keys : List ShapeKey)
    (d : Declaration) : Prop where
  abiName : e.abiName = d.nameOrKind
  anonymous : e.anonymous = d.anonymous
  names : e.fields.map (·.name) = claimedNames "param" d.inputs
  types : ∃ types, Settled mode keys d.inputs types ∧
    e.fields.map (·.type) = (d.inputs.zip types).map fun x => loggedType x.1 x.2

structure ErrorBinding.Carries (e : ErrorBinding) (mode : Representation) (keys : List ShapeKey)
    (d : Declaration) : Prop where
  abiName : e.abiName = d.nameOrKind
  names : e.fields.map (·.name) = claimedNames "param" d.inputs
  types : Settled mode keys d.inputs (e.fields.map (·.type))

section Faces

variable {mode : Representation} {keys : List ShapeKey} {r : ResolvedDeclaration}

/-- A function is called if it only reads, or on request. -/
theorem FunctionBinding.call_iff {f : FunctionBinding} {both : Bool} (h : f.ways = r.ways both) :
    f.call.isSome = true ↔
      r.declaration.mutability = .pure ∨ r.declaration.mutability = .view ∨ both = true := by
  have hc : f.call.isSome = (r.declaration.mutability.isReadOnly || both) := congrArg (·.1) h
  rw [hc]
  cases r.declaration.mutability <;> simp [Mutability.isReadOnly]

/-- A function is sent as a transaction unless it only reads, or on request. -/
theorem FunctionBinding.transaction_iff {f : FunctionBinding} {both : Bool}
    (h : f.ways = r.ways both) :
    f.transaction.isSome = true ↔ (r.declaration.mutability ≠ .pure ∧
      r.declaration.mutability ≠ .view) ∨ both = true := by
  have ht : f.transaction.isSome = (!r.declaration.mutability.isReadOnly || both) :=
    congrArg (·.2) h
  rw [ht]
  cases r.declaration.mutability <;> simp [Mutability.isReadOnly]

/-- What was bound before methods were named is all that a declaration says. -/
theorem FunctionBinding.carries_of_face {f : FunctionBinding} {options : Options}
    (hs : r.Sound options.representation keys) (hk : r.declaration.kind = .function)
    (hface : f.face = functionFace r) (hways : f.ways = r.ways options.callAndSend) :
    f.Carries options keys r.declaration := by
  have hb := FunctionBinding.boundTo_of_face hs hk hface
  have hresults : r.declaration.results = r.declaration.outputs := by
    rw [Declaration.results, if_pos hk]
  have houtputs := hs.outputs
  rw [hresults] at houtputs
  have hin := congrArg (fun f => f.inputs.map (·.name)) hface
  have hout := congrArg (fun f => f.outputs.map (·.name)) hface
  refine ⟨hb.abiName, hin.trans ?_, hb.inputs ▸ hs.inputs, hout.trans ?_, hb.outputs ▸ houtputs,
    call_iff hways, transaction_iff hways⟩
  · exact pairMembers_claimed "param" hs.inputs.length
  · exact pairMembers_claimed "value" houtputs.length

theorem EventBinding.carries_of_face {e : EventBinding} (hs : r.Sound mode keys)
    (hface : e.face = eventFace r) : e.Carries mode keys r.declaration := by
  have hb := EventBinding.boundTo_of_face hs hface
  obtain ⟨named, hnames, _, hfields⟩ := eventFields_named hs.inputs.length
  have hnamed := congrArg (fun e => e.fields.map (·.name)) hface
  refine ⟨hb.abiName, congrArg (·.anonymous) hface, hnamed.trans ?_, r.inputs, hs.inputs, hb.fields⟩
  change (eventFields r).1.map (·.name) = _
  rw [hfields, placeFields_names, hnames]

theorem ErrorBinding.carries_of_face {e : ErrorBinding} (hs : r.Sound mode keys)
    (hface : e.face = errorFace r) : e.Carries mode keys r.declaration := by
  have hb := ErrorBinding.boundTo_of_face hs hface
  have hnamed := congrArg (fun e => e.fields.map (·.name)) hface
  refine ⟨hb.abiName, hnamed.trans ?_, hb.fields ▸ hs.inputs⟩
  exact pairMembers_claimed "param" hs.inputs.length

end Faces

end AbiBindings
