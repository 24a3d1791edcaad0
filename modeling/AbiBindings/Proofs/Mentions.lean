import AbiBindings.Proofs.Declarations

namespace AbiBindings

def Parameter.OfTuples (p : Parameter) : Prop :=
  ∃ dims, TypeExpr.parse p.typeText = .ok ⟨.tuple, dims⟩

/-- The parameters that resolving a list comes to, each with what is gathered by then. The parts of
a tuple are come to before what follows it. -/
inductive Met (mode : Representation) (origin : String) :
    Gathered → List Parameter → Gathered → Parameter → Prop
  | here (g : Gathered) (p : Parameter) (ps : List Parameter) : Met mode origin g (p :: ps) g p
  | part {g g' : Gathered} {p q : Parameter} {ps : List Parameter} (hp : p.OfTuples)
    (h : Met mode origin g p.components g' q) : Met mode origin g (p :: ps) g' q
  | later {g g₁ g' : Gathered} {p q : Parameter} {ps : List Parameter} {r : Resolved}
    (hr : resolveParameter mode origin g p = .ok (r, g₁)) (h : Met mode origin g₁ ps g' q) :
    Met mode origin g (p :: ps) g' q

/-- The parameters that resolving declarations comes to: inputs and results, in order, of each
declaration that repeats no earlier one. -/
inductive MetIn (mode : Representation) :
    List (Kind × String) → Gathered → List Declaration → String → Gathered → Parameter → Prop
  | input {seen : List (Kind × String)} {g g' : Gathered} {d : Declaration} {ds : List Declaration}
    {sig : String} {q : Parameter} (hsig : signature d.nameOrKind d.inputs d.describe = .ok sig)
    (hnew : d.identity sig ∉ seen) (h : Met mode d.describe g d.inputs g' q) :
    MetIn mode seen g (d :: ds) d.describe g' q
  | result {seen : List (Kind × String)} {g g₁ g' : Gathered} {d : Declaration}
    {ds : List Declaration} {sig : String} {q : Parameter} {types : List Resolved}
    (hsig : signature d.nameOrKind d.inputs d.describe = .ok sig) (hnew : d.identity sig ∉ seen)
    (hin : resolveParameters mode d.describe g d.inputs = .ok (types, g₁))
    (h : Met mode d.describe g₁ d.results g' q) : MetIn mode seen g (d :: ds) d.describe g' q
  | repeated {seen : List (Kind × String)} {g g' : Gathered} {d : Declaration}
    {ds : List Declaration} {sig origin : String} {q : Parameter}
    (hsig : signature d.nameOrKind d.inputs d.describe = .ok sig) (hseen : d.identity sig ∈ seen)
    (h : MetIn mode seen g ds origin g' q) : MetIn mode seen g (d :: ds) origin g' q
  | later {seen : List (Kind × String)} {g g₁ g' : Gathered} {d : Declaration}
    {ds : List Declaration} {sig origin : String} {q : Parameter} {r : ResolvedDeclaration}
    (hsig : signature d.nameOrKind d.inputs d.describe = .ok sig) (hnew : d.identity sig ∉ seen)
    (hd : d.resolve mode g sig = .ok (r, g₁))
    (h : MetIn mode (d.identity sig :: seen) g₁ ds origin g' q) :
    MetIn mode seen g (d :: ds) origin g' q

/-- The tuple that values of a type are made of, under any arrays. -/
def Wire.tupleId? : Wire → Option StructId
  | .elementary _ => none
  | .array element _ => element.tupleId?
  | .tuple id => some id

theorem Wire.tupleId?_withDims (r : Resolved) (dims : List (Option Nat)) :
    (r.withDims dims).wire.tupleId? = r.wire.tupleId? := by
  induction dims generalizing r with
  | nil => rfl
  | cons d dims ih => exact ih (r.arrayOf d)

variable {mode : Representation} {origin : String}

/-- Resolving a parameter at some point gives its tuples an id. -/
structure GivenId (mode : Representation) (origin : String) (g : Gathered) (q : Parameter)
    (id : StructId) : Prop where
  ofTuples : q.OfTuples
  resolved : ∃ r g', resolveParameter mode origin g q = .ok (r, g') ∧ r.wire.tupleId? = some id

/-- A mention of a tuple among declarations, with the id it is given. -/
structure Mention (mode : Representation) (ds : List Declaration) (origin : String) (g : Gathered)
    (q : Parameter) (id : StructId) : Prop where
  met : MetIn mode [] .empty ds origin g q
  given : GivenId mode origin g q id

section Visits

/-- Resolving at some point of a run: it succeeds, and the run goes on from there without a loss. -/
structure Visit (mode : Representation) (origin : String) (g : Gathered) (q : Parameter)
    (final : Gathered) (r : Resolved) (g' : Gathered) : Prop where
  sound : g.Sound mode
  resolved : resolveParameter mode origin g q = .ok (r, g')
  keeps : g'.Keeps final
  lossless : g'.losses = []

theorem Visit.mono {g final final' g' : Gathered} {q : Parameter} {r : Resolved}
    (h : Visit mode origin g q final r g') (hk : final.Keeps final') :
    Visit mode origin g q final' r g' :=
  ⟨h.sound, h.resolved, h.keeps.trans hk, h.lossless⟩

/-- Of a tuple, the parts are resolved first, and then it is interned. -/
theorem resolveParameter_ofTuples {p : Parameter} {g g' : Gathered} {r : Resolved}
    (hp : p.OfTuples) (h : resolveParameter mode origin g p = .ok (r, g')) :
    ∃ types g₁ id shapes, resolveParameters mode origin g p.components = .ok (types, g₁) ∧
      g₁.shapes.intern p.nameHint ((p.components.map (·.name)).zip types) origin = (id, shapes) ∧
      r.wire.tupleId? = some id ∧ g' = { g₁ with shapes } := by
  obtain ⟨dims, hd⟩ := hp
  rcases resolveParameter_cases h with
    ⟨e, dims', ht, _⟩ | ⟨dims', types, g₁, id, shapes, _, hc, hi, rfl, rfl⟩
  · obtain ⟨ht', _⟩ := Parameter.typeExpr_ok ht
    rw [hd] at ht'
    cases ht'
  · refine ⟨types, g₁, id, shapes, hc, hi, ?_, rfl⟩
    rw [Wire.tupleId?_withDims, Wire.tupleId?]

/-- In a run without losses nothing is lost at its first parameter either. -/
theorem resolveParameters_lossless {g final : Gathered} {p : Parameter} {ps : List Parameter}
    {types : List Resolved} (hs : g.Sound mode) (hl : final.losses = [])
    (h : resolveParameters mode origin g (p :: ps) = .ok (types, final)) :
    ∃ r g₁ rest, resolveParameter mode origin g p = .ok (r, g₁) ∧
      resolveParameters mode origin g₁ ps = .ok (rest, final) ∧
      g₁.losses = [] ∧ g₁.Sound mode ∧ g₁.Keeps final := by
  obtain ⟨r, g₁, rest, hp, hps, _⟩ := resolveParameters_cons h
  have hl₁ : g₁.losses = [] := List.prefix_nil.mp (hl ▸ losses_resolveParameters ps hps)
  obtain ⟨hs₁, _, _⟩ := resolveParameter_spec p hs hl₁ hp
  obtain ⟨_, hk, _⟩ := resolveParameters_spec ps hs₁ hl hps
  exact ⟨r, g₁, rest, hp, hps, hl₁, hs₁, hk⟩

/-- Whatever a run comes to, it resolves. -/
theorem Met.visit {g g' final : Gathered} {ps : List Parameter} {q : Parameter}
    {types : List Resolved} (h : Met mode origin g ps g' q) (hs : g.Sound mode)
    (hl : final.losses = []) (hr : resolveParameters mode origin g ps = .ok (types, final)) :
    ∃ r g'', Visit mode origin g' q final r g'' := by
  -- The run is taken apart along the way to the parameter, and every stretch of it is lossless.
  induction h generalizing final types with
  | here g p ps =>
    obtain ⟨r, g₁, _, hp, _, hl₁, _, hk⟩ := resolveParameters_lossless hs hl hr
    exact ⟨r, g₁, hs, hp, hk, hl₁⟩
  | part ht _ ih =>
    obtain ⟨r, g₁, _, hp, _, hl₁, _, hk⟩ := resolveParameters_lossless hs hl hr
    obtain ⟨parts, g₂, id, shapes, hc, hi, _, rfl⟩ := resolveParameter_ofTuples ht hp
    have hl₂ : g₂.losses = [] := hl₁
    obtain ⟨r', g'', hv⟩ := ih hs hl₂ hc
    have hk₂ : g₂.Keeps { g₂ with shapes } := (ShapeTable.intern_spec hi).1
    exact ⟨r', g'', hv.mono (hk₂.trans hk)⟩
  | later hp _ ih =>
    obtain ⟨r, g₁, _, hp', hps, _, hs₁, _⟩ := resolveParameters_lossless hs hl hr
    cases hp.symm.trans hp'
    exact ih hs₁ hl hps

section Declarations

variable {seen : List (Kind × String)} {g final : Gathered} {d : Declaration}
variable {ds : List Declaration} {sig : String} {rs : List ResolvedDeclaration}

/-- A repeated declaration changes nothing of what is resolved. -/
theorem resolveDeclarations_repeated
    (hsig : signature d.nameOrKind d.inputs d.describe = .ok sig) (hseen : d.identity sig ∈ seen)
    (h : (resolveDeclarations mode seen g (d :: ds)).2 = .ok (rs, final)) :
    (resolveDeclarations mode seen g ds).2 = .ok (rs, final) := by
  obtain ⟨sig', hsig', ⟨_, hrest⟩ | ⟨hnew, _⟩⟩ := resolveDeclarations_cons h
  · exact hrest
  · cases hsig.symm.trans hsig'
    exact absurd hseen hnew

/-- In a run without losses nothing is lost at its first declaration either. -/
theorem resolveDeclarations_lossless
    (hsig : signature d.nameOrKind d.inputs d.describe = .ok sig) (hnew : d.identity sig ∉ seen)
    (hs : g.Sound mode) (hl : final.losses = [])
    (h : (resolveDeclarations mode seen g (d :: ds)).2 = .ok (rs, final)) :
    ∃ r g₁ rest, d.resolve mode g sig = .ok (r, g₁) ∧
      (resolveDeclarations mode (d.identity sig :: seen) g₁ ds).2 = .ok (rest, final) ∧
      g₁.losses = [] ∧ g₁.Sound mode ∧ g₁.Keeps final := by
  obtain ⟨sig', hsig', ⟨hseen, _⟩ | ⟨_, r, g₁, rest, hr, hrest, _⟩⟩ := resolveDeclarations_cons h
  · cases hsig.symm.trans hsig'
    exact absurd hseen hnew
  · cases hsig.symm.trans hsig'
    have hl₁ : g₁.losses = [] := List.prefix_nil.mp (hl ▸ losses_resolveDeclarations hrest)
    obtain ⟨hs₁, _, _⟩ := Declaration.resolve_spec hs hl₁ hsig hr
    obtain ⟨_, hk, _⟩ := resolveDeclarations_spec hs₁ hl hrest
    exact ⟨r, g₁, rest, hr, hrest, hl₁, hs₁, hk⟩

/-- Nor is it between the inputs and the results of a declaration. -/
theorem Declaration.resolve_lossless {r : ResolvedDeclaration} (hs : g.Sound mode)
    (hl : final.losses = []) (h : d.resolve mode g sig = .ok (r, final)) :
    ∃ inputs g₁ outputs, resolveParameters mode d.describe g d.inputs = .ok (inputs, g₁) ∧
      resolveParameters mode d.describe g₁ d.results = .ok (outputs, final) ∧
      g₁.losses = [] ∧ g₁.Sound mode ∧ g₁.Keeps final := by
  obtain ⟨inputs, g₁, outputs, hi, ho, _⟩ := Declaration.resolve_ok h
  have hl₁ : g₁.losses = [] := List.prefix_nil.mp (hl ▸ losses_resolveParameters _ ho)
  obtain ⟨hs₁, _, _⟩ := resolveParameters_spec _ hs hl₁ hi
  obtain ⟨_, hk, _⟩ := resolveParameters_spec _ hs₁ hl ho
  exact ⟨inputs, g₁, outputs, hi, ho, hl₁, hs₁, hk⟩

end Declarations

/-- Whatever resolving declarations comes to, it resolves. -/
theorem MetIn.visit {seen : List (Kind × String)} {g g' final : Gathered} {ds : List Declaration}
    {q : Parameter} {rs : List ResolvedDeclaration} (h : MetIn mode seen g ds origin g' q)
    (hs : g.Sound mode) (hl : final.losses = [])
    (hr : (resolveDeclarations mode seen g ds).2 = .ok (rs, final)) :
    ∃ r g'', Visit mode origin g' q final r g'' := by
  induction h generalizing final rs with
  | input hsig hnew h =>
    obtain ⟨_, g₂, _, hd, _, hl₂, _, hk₂⟩ := resolveDeclarations_lossless hsig hnew hs hl hr
    obtain ⟨_, g₁, _, hi, _, hl₁, _, hk₁⟩ := Declaration.resolve_lossless hs hl₂ hd
    obtain ⟨r, g'', hv⟩ := h.visit hs hl₁ hi
    exact ⟨r, g'', hv.mono (hk₁.trans hk₂)⟩
  | result hsig hnew hin h =>
    obtain ⟨_, g₂, _, hd, _, hl₂, _, hk₂⟩ := resolveDeclarations_lossless hsig hnew hs hl hr
    obtain ⟨_, g₁, _, hi, ho, _, hs₁, _⟩ := Declaration.resolve_lossless hs hl₂ hd
    cases hin.symm.trans hi
    obtain ⟨r, g'', hv⟩ := h.visit hs₁ hl₂ ho
    exact ⟨r, g'', hv.mono hk₂⟩
  | repeated hsig hseen _ ih => exact ih hs hl (resolveDeclarations_repeated hsig hseen hr)
  | later hsig hnew hd _ ih =>
    obtain ⟨_, _, _, hd', hrest, _, hs₁, _⟩ := resolveDeclarations_lossless hsig hnew hs hl hr
    cases hd.symm.trans hd'
    exact ih hs₁ hl hrest

end Visits

section Origins

theorem Met.of_head {g g' : Gathered} {p q : Parameter} (h : Met mode origin g [p] g' q)
    (ps : List Parameter) : Met mode origin g (p :: ps) g' q := by
  cases h with
  | here => exact .here g p ps
  | part hp h => exact .part hp h
  | later _ h => cases h

mutual

/-- A shape that is new after a parameter belongs to a tuple met on the way. -/
theorem resolveParameter_origin {g final : Gathered} {r : Resolved} {id : StructId} :
    (p : Parameter) → resolveParameter mode origin g p = .ok (r, final) →
      g.shapes.length ≤ id → id < final.shapes.length →
      ∃ g' q, Met mode origin g [p] g' q ∧ GivenId mode origin g' q id
  | ⟨name, typeText, internalType, components, indexed⟩, h, hle, hlt => by
    rcases resolveParameter_cases h with
      ⟨e, dims, _, hp⟩ | ⟨dims, types, g₁, id', shapes, ht, hc, hi, rfl, rfl⟩
    · rw [Gathered.shapes_resolvePlain hp] at hlt
      exact absurd hlt (Nat.not_lt.mpr hle)
    · obtain ⟨hp, _⟩ := Parameter.typeExpr_ok ht
      -- The id is that of a part, or the one the tuple itself was just given.
      rcases ShapeTable.lt_of_intern hi hlt with hlt | rfl
      · obtain ⟨g', q, hm, hq⟩ := resolveParameters_origin components hc hle hlt
        exact ⟨g', q, .part ⟨dims, hp⟩ hm, hq⟩
      · exact ⟨g, _, .here g _ [], ⟨dims, hp⟩, _, _, h,
          by rw [Wire.tupleId?_withDims, Wire.tupleId?]⟩

/-- Every shape that resolving adds is that of a tuple come to on the way. -/
theorem resolveParameters_origin {g final : Gathered} {rs : List Resolved} {id : StructId} :
    (ps : List Parameter) → resolveParameters mode origin g ps = .ok (rs, final) →
      g.shapes.length ≤ id → id < final.shapes.length →
      ∃ g' q, Met mode origin g ps g' q ∧ GivenId mode origin g' q id
  | [], h, hle, hlt => by
    cases h
    exact absurd hlt (Nat.not_lt.mpr hle)
  | p :: ps, h, hle, hlt => by
    obtain ⟨r, g₁, rest, hp, hps, _⟩ := resolveParameters_cons h
    rcases Nat.lt_or_ge id g₁.shapes.length with h₁ | h₁
    · obtain ⟨g', q, hm, hq⟩ := resolveParameter_origin p hp hle h₁
      exact ⟨g', q, hm.of_head ps, hq⟩
    · obtain ⟨g', q, hm, hq⟩ := resolveParameters_origin ps hps h₁ hlt
      exact ⟨g', q, .later hp hm, hq⟩

end

/-- A shape that is new after some declarations belongs to a tuple met on the way. -/
theorem resolveDeclarations_origin {seen : List (Kind × String)} {g final : Gathered}
    {ds : List Declaration} {rs : List ResolvedDeclaration} {id : StructId}
    (h : (resolveDeclarations mode seen g ds).2 = .ok (rs, final))
    (hle : g.shapes.length ≤ id) (hlt : id < final.shapes.length) :
    ∃ origin g' q, MetIn mode seen g ds origin g' q ∧ GivenId mode origin g' q id := by
  induction ds generalizing seen g rs with
  | nil =>
    cases h
    exact absurd hlt (Nat.not_lt.mpr hle)
  | cons d ds ih =>
    obtain ⟨sig, hsig, ⟨hseen, hrest⟩ | ⟨hnew, r, g₂, rest, hd, hrest, _⟩⟩ :=
      resolveDeclarations_cons h
    · obtain ⟨origin, g', q, hm, hq⟩ := ih hrest hle
      exact ⟨origin, g', q, .repeated hsig hseen hm, hq⟩
    · obtain ⟨inputs, g₁, outputs, hi, ho, _⟩ := Declaration.resolve_ok hd
      rcases Nat.lt_or_ge id g₁.shapes.length with h₁ | h₁
      · obtain ⟨g', q, hm, hq⟩ := resolveParameters_origin _ hi hle h₁
        exact ⟨_, g', q, .input hsig hnew hm, hq⟩
      rcases Nat.lt_or_ge id g₂.shapes.length with h₂ | h₂
      · obtain ⟨g', q, hm, hq⟩ := resolveParameters_origin _ ho h₁ h₂
        exact ⟨_, g', q, .result hsig hnew hi hm, hq⟩
      · obtain ⟨origin, g', q, hm, hq⟩ := ih hrest h₂
        exact ⟨origin, g', q, .later hsig hnew hd hm, hq⟩

end Origins

end AbiBindings
