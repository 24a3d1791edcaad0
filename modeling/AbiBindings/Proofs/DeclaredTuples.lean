import AbiBindings.Proofs.InternRuns
import AbiBindings.Proofs.StructIds

namespace AbiBindings

mutual

/-- The tuples that a parameter mentions, those among its parts before itself. -/
def Parameter.tuples : Parameter → List Parameter
  | ⟨name, typeText, internalType, components, indexed⟩ =>
    match TypeExpr.parse typeText with
    | .error _ => []
    | .ok ⟨.elementary _, _⟩ => []
    | .ok ⟨.tuple, _⟩ =>
      Parameter.tuplesOf components ++ [⟨name, typeText, internalType, components, indexed⟩]

def Parameter.tuplesOf : List Parameter → List Parameter
  | [] => []
  | p :: ps => p.tuples ++ Parameter.tuplesOf ps

end

/-- The tuples that declarations mention, in the order in which they are come to. -/
def declaredTuples (ds : List Declaration) : List Parameter :=
  ds.flatMap fun d => Parameter.tuplesOf d.inputs ++ Parameter.tuplesOf d.results

section Tuples

variable {origin : String} {p : Parameter} {dims : List (Option Nat)}

theorem Parameter.tuples_elementary {e : Elementary}
    (h : p.typeExpr origin = .ok ⟨.elementary e, dims⟩) : p.tuples = [] := by
  obtain ⟨hp, _⟩ := typeExpr_ok h
  obtain ⟨name, typeText, internalType, components, indexed⟩ := p
  simp only at hp
  simp only [tuples, hp]

theorem Parameter.tuples_tuple (h : p.typeExpr origin = .ok ⟨.tuple, dims⟩) :
    p.tuples = Parameter.tuplesOf p.components ++ [p] := by
  obtain ⟨hp, _⟩ := typeExpr_ok h
  obtain ⟨name, typeText, internalType, components, indexed⟩ := p
  simp only at hp
  simp only [tuples, hp]

end Tuples

/-- The request that a tuple makes: its hint, and its parts as they resolve among the shapes known. -/
def Parameter.Asks (mode : Representation) (keys : List ShapeKey) (q : Parameter)
    (r : ShapeRequest) : Prop :=
  r.hint = q.nameHint ∧ ∃ parts, Parameter.parts q.components = some parts ∧
    TypeTree.resolveParts mode keys parts = some r.fields

section Asking

variable {mode : Representation} {keys keys' : List ShapeKey} {q q' : Parameter}
variable {r r' : ShapeRequest}

theorem Parameter.Asks.mono (h : q.Asks mode keys r) (hk : keys <+: keys') :
    q.Asks mode keys' r := by
  obtain ⟨hhint, parts, hp, hf⟩ := h
  exact ⟨hhint, parts, hp, TypeTree.resolveParts_prefix hk parts hf⟩

/-- Tuples ask for one shape just when they have the same parts. -/
theorem Parameter.Asks.key_eq_iff (h : q.Asks mode keys r) (h' : q'.Asks mode keys r') :
    r.key = r'.key ↔ SameParts q.components q'.components := by
  obtain ⟨_, parts, hp, hf⟩ := h
  obtain ⟨_, parts', hp', hf'⟩ := h'
  constructor
  · intro hk
    have he := TypeTree.resolveParts_key_injective parts parts' hf hf' hk
    exact sameParts_of_parts hp' _ (he ▸ hp)
  · intro hs
    have he := Option.some.inj (hp.symm.trans (hs.parts_eq.trans hp'))
    rw [he] at hf
    rw [ShapeRequest.key, ShapeRequest.key, Option.some.inj (hf.symm.trans hf')]

/-- A run asks for the shapes of these tuples, in their order, and interns nothing else. -/
def Gathered.Interns (mode : Representation) (g : Gathered) (tuples : List Parameter)
    (g' : Gathered) : Prop :=
  ∃ requests, List.Forall₂ (Parameter.Asks mode g'.shapes.keys) tuples requests ∧
    g'.shapes = g.shapes.internAll requests

theorem Gathered.Interns.none {g g' : Gathered} (h : g'.shapes = g.shapes) :
    g.Interns mode [] g' := ⟨[], .nil, h⟩

/-- What two runs intern one after the other is interned by the two together. -/
theorem Gathered.Interns.append {g g₁ g' : Gathered} {xs ys : List Parameter}
    (h : g.Interns mode xs g₁) (hk : g₁.Keeps g') (h' : g₁.Interns mode ys g') :
    g.Interns mode (xs ++ ys) g' := by
  obtain ⟨requests, hasks, hshapes⟩ := h
  obtain ⟨requests', hasks', hshapes'⟩ := h'
  refine ⟨requests ++ requests', ?_, ?_⟩
  · exact List.rel_append (hasks.imp fun _ _ hq => hq.mono hk) hasks'
  · rw [hshapes', hshapes, ShapeTable.internAll_append]

/-- One tuple makes one request, with its hint. -/
theorem Gathered.Interns.one {g : Gathered} {fields : List (String × Resolved)} {origin : String}
    {parts : List (String × TypeTree)} {id : StructId} {shapes : ShapeTable}
    (hp : Parameter.parts q.components = some parts)
    (hf : TypeTree.resolveParts mode g.shapes.keys parts = some fields)
    (hi : g.shapes.intern q.nameHint fields origin = (id, shapes)) :
    g.Interns mode [q] { g with shapes } := by
  have hk : g.shapes.keys <+: shapes.keys := (ShapeTable.intern_spec hi).1
  refine ⟨[⟨q.nameHint, fields, origin⟩], ?_, (congrArg Prod.snd hi).symm⟩
  exact .cons ⟨rfl, parts, hp, TypeTree.resolveParts_prefix hk parts hf⟩ .nil

end Asking

section Runs

variable {mode : Representation} {origin : String}

mutual

/-- Resolving a parameter asks for the shapes of its tuples, inner ones first. -/
theorem resolveParameter_interns {g g' : Gathered} {r : Resolved} :
    (p : Parameter) → g.Sound mode → g'.losses = [] →
      resolveParameter mode origin g p = .ok (r, g') → g.Interns mode p.tuples g'
  | ⟨name, typeText, internalType, components, indexed⟩, hs, hl, h => by
    rcases resolveParameter_cases h with
      ⟨e, dims, ht, hp⟩ | ⟨dims, types, g₁, id, shapes, ht, hc, hi, rfl, rfl⟩
    · rw [Parameter.tuples_elementary ht]
      exact .none (Gathered.shapes_resolvePlain hp)
    · have hl₁ : g₁.losses = [] := hl
      obtain ⟨_, _, parts, hp, hf⟩ := resolveParameters_spec components hs hl₁ hc
      have hk : g₁.shapes.keys <+: shapes.keys := (ShapeTable.intern_spec hi).1
      rw [Parameter.tuples_tuple ht]
      -- The parts ask first; the tuple's own request is the last.
      exact (resolveParameters_interns components hs hl₁ hc).append hk (.one hp hf hi)

theorem resolveParameters_interns {g g' : Gathered} {rs : List Resolved} :
    (ps : List Parameter) → g.Sound mode → g'.losses = [] →
      resolveParameters mode origin g ps = .ok (rs, g') →
      g.Interns mode (Parameter.tuplesOf ps) g'
  | [], _, _, h => by
    cases h
    exact .none rfl
  | p :: ps, hs, hl, h => by
    obtain ⟨r, g₁, rest, hr, hrest, _⟩ := resolveParameters_cons h
    have hl₁ : g₁.losses = [] :=
      List.prefix_nil.mp (hl ▸ losses_resolveParameters ps hrest)
    obtain ⟨hs₁, _, _⟩ := resolveParameter_spec p hs hl₁ hr
    obtain ⟨_, hk, _⟩ := resolveParameters_spec ps hs₁ hl hrest
    exact (resolveParameter_interns p hs hl₁ hr).append hk
      (resolveParameters_interns ps hs₁ hl hrest)

end

/-- Without losses, resolving declarations interns the tuples of those that are kept. -/
theorem resolveDeclarations_interns {seen : List (Kind × String)} {g g' : Gathered}
    {ds : List Declaration} {rs : List ResolvedDeclaration} (hs : g.Sound mode)
    (hl : g'.losses = []) (h : (resolveDeclarations mode seen g ds).2 = .ok (rs, g')) :
    g.Interns mode (declaredTuples (rs.map (·.declaration))) g' := by
  induction ds generalizing seen g rs with
  | nil =>
    cases h
    exact .none rfl
  | cons d ds ih =>
    obtain ⟨sig, hsig, ⟨_, hrest⟩ | ⟨_, r, g₂, rest, hr, hrest, rfl⟩⟩ := resolveDeclarations_cons h
    · exact ih hs hrest
    · have hl₂ : g₂.losses = [] := List.prefix_nil.mp (hl ▸ losses_resolveDeclarations hrest)
      obtain ⟨hs₂, _, _⟩ := Declaration.resolve_spec hs hl₂ hsig hr
      obtain ⟨_, hk₂, _⟩ := resolveDeclarations_spec hs₂ hl hrest
      obtain ⟨_, g₁, _, hi, ho, hl₁, hs₁, hk₁⟩ := Declaration.resolve_lossless hs hl₂ hr
      obtain ⟨_, _, _, _, _, rfl⟩ := Declaration.resolve_ok hr
      have hown : g.Interns mode (Parameter.tuplesOf d.inputs ++ Parameter.tuplesOf d.results) g₂ :=
        (resolveParameters_interns d.inputs hs hl₁ hi).append hk₁
          (resolveParameters_interns d.results hs₁ hl₂ ho)
      exact hown.append hk₂ (ih hs₂ hrest)

end Runs

/-- The hint that comes first for the shape of a tuple, among the hints of the tuples with its parts. -/
def FirstHinted (tuples : List Parameter) (q : Parameter) (hint : String) : Prop :=
  ∃ before first after, tuples = before ++ first :: after ∧
    SameParts q.components first.components ∧ first.nameHint = some hint ∧
    ∀ q' ∈ before, SameParts q.components q'.components → q'.nameHint = none

/-- The hint of a shape is that of a tuple with its parts. -/
theorem FirstHinted.source {tuples : List Parameter} {q : Parameter} {hint : String}
    (h : FirstHinted tuples q hint) :
    ∃ q' ∈ tuples, SameParts q.components q'.components ∧ q'.nameHint = some hint := by
  obtain ⟨before, first, after, rfl, hparts, hhint, _⟩ := h
  exact ⟨first, by simp, hparts, hhint⟩

section Requests

variable {mode : Representation} {keys : List ShapeKey} {tuples : List Parameter}
variable {requests : List ShapeRequest} {q : Parameter} {r : ShapeRequest} {hint : String}

/-- The first hint among requests is the first among the tuples that make them. -/
theorem firstHint_hinted (h : List.Forall₂ (Parameter.Asks mode keys) tuples requests)
    (hq : q.Asks mode keys r) (hfirst : firstHint requests r.key = some hint) :
    FirstHinted tuples q hint := by
  induction h with
  | nil => cases hfirst
  | @cons q₁ r₁ tuples requests hask hrest ih =>
    have hsame : r₁.key = r.key ↔ SameParts q.components q₁.components := by
      rw [eq_comm, hq.key_eq_iff hask]
    rw [firstHint, List.findSome?_cons] at hfirst
    by_cases hk : r₁.key = r.key
    · rw [if_pos hk, hask.1] at hfirst
      cases hh : q₁.nameHint with
      | some hint₁ =>
        rw [hh] at hfirst
        cases hfirst
        exact ⟨[], q₁, tuples, rfl, hsame.mp hk, hh, by simp⟩
      | none =>
        rw [hh] at hfirst
        obtain ⟨before, first, after, rfl, hparts, hhint, hnone⟩ := ih hfirst
        refine ⟨q₁ :: before, first, after, rfl, hparts, hhint, ?_⟩
        exact List.forall_mem_cons.mpr ⟨fun _ => hh, hnone⟩
    · rw [if_neg hk] at hfirst
      obtain ⟨before, first, after, rfl, hparts, hhint, hnone⟩ := ih hfirst
      refine ⟨q₁ :: before, first, after, rfl, hparts, hhint, ?_⟩
      exact List.forall_mem_cons.mpr ⟨fun hs => absurd (hsame.mpr hs) hk, hnone⟩

end Requests

/-- A table made by interning tuples: each request is that of a tuple, in their order. -/
def ShapeTable.MadeOf (mode : Representation) (table : ShapeTable) (tuples : List Parameter) :
    Prop :=
  ∃ requests, List.Forall₂ (Parameter.Asks mode table.keys) tuples requests ∧
    table.MadeBy requests

theorem idxOf?_of_nodup {α : Type} [BEq α] [LawfulBEq α] {xs : List α} {x : α} {i : Nat}
    (hn : xs.Nodup) (h : xs[i]? = some x) : xs.idxOf? x = some i := by
  obtain ⟨hi, rfl⟩ := List.getElem?_eq_some_iff.mp h
  apply List.idxOf?_eq_some_iff.mpr
  refine ⟨hi, rfl, fun j hj he => ?_⟩
  have hji : j = i := hn.getElem_inj_iff.mp he
  omega

namespace ShapeTable.MadeOf

variable {mode : Representation} {table : ShapeTable} {tuples : List Parameter} {q : Parameter}
variable {fields : List (String × Resolved)} {id : StructId} {s : Shape}

theorem of_interns {g : Gathered} (h : Gathered.empty.Interns mode tuples g) :
    g.shapes.MadeOf mode tuples := by
  obtain ⟨requests, hasks, hshapes⟩ := h
  refine ⟨requests, hasks, ?_⟩
  rw [hshapes]
  exact MadeBy.nil.internAll requests

theorem asked {requests : List ShapeRequest}
    (h : List.Forall₂ (Parameter.Asks mode table.keys) tuples requests) (hq : q ∈ tuples) :
    ∃ r ∈ requests, q.Asks mode table.keys r := by
  obtain ⟨i, hi⟩ := List.getElem?_of_mem hq
  obtain ⟨r, hr, hasks⟩ := forall₂_getElem? h hi
  exact ⟨r, List.mem_of_getElem? hr, hasks⟩

theorem asking {requests : List ShapeRequest} {r : ShapeRequest}
    (h : List.Forall₂ (Parameter.Asks mode table.keys) tuples requests) (hr : r ∈ requests) :
    ∃ q ∈ tuples, q.Asks mode table.keys r := by
  obtain ⟨i, hi⟩ := List.getElem?_of_mem hr
  obtain ⟨q, hq, hasks⟩ := forall₂_getElem? h.flip hi
  exact ⟨q, List.mem_of_getElem? hq, hasks⟩

/-- Every tuple has its shape in the table. -/
theorem located (h : table.MadeOf mode tuples) (hq : q ∈ tuples) :
    ∃ fields id s, Located mode table.keys q fields id ∧ table[id]? = some s := by
  obtain ⟨requests, hasks, hmade⟩ := h
  obtain ⟨r, hr, _, parts, hp, hf⟩ := asked hasks hq
  have hkey : r.key ∈ table.keys := (hmade.known r.key).mpr (List.mem_map_of_mem hr)
  cases hid : table.keys.idxOf? r.key with
  | none => exact absurd hkey (List.idxOf?_eq_none_iff.mp hid)
  | some id =>
    have hplace := TypeTree.key_of_idxOf? hid
    rw [ShapeTable.keys, List.getElem?_map] at hplace
    obtain ⟨s, hs, _⟩ := Option.map_eq_some_iff.mp hplace
    exact ⟨r.fields, id, s, ⟨parts, hp, hf, hid⟩, hs⟩

/-- Every shape in the table is that of a tuple. -/
theorem tuple (h : table.MadeOf mode tuples) (hs : table[id]? = some s) :
    ∃ q ∈ tuples, ∃ fields, Located mode table.keys q fields id := by
  obtain ⟨requests, hasks, hmade⟩ := h
  have hplace : table.keys[id]? = some (shapeKey s.fields) := by
    rw [ShapeTable.keys, List.getElem?_map, hs, Option.map_some]
  obtain ⟨r, hr, hkey⟩ :=
    List.mem_map.mp ((hmade.known _).mp (List.mem_of_getElem? hplace))
  obtain ⟨q, hq, _, parts, hp, hf⟩ := asking hasks hr
  refine ⟨q, hq, r.fields, parts, hp, hf, ?_⟩
  change table.keys.idxOf? r.key = some id
  rw [hkey]
  exact idxOf?_of_nodup hmade.once hplace

/-- A shape has the hint that comes first for it. -/
theorem hinted (h : table.MadeOf mode tuples) (hl : Located mode table.keys q fields id)
    (hs : table[id]? = some s)
    (hhint : ∃ q' ∈ tuples, SameParts q.components q'.components ∧
      ∃ hint, q'.nameHint = some hint) :
    ∃ hint, s.hint = some hint ∧ FirstHinted tuples q hint := by
  obtain ⟨requests, hasks, hmade⟩ := h
  obtain ⟨parts, hp, hf, hid⟩ := hl
  let r : ShapeRequest := ⟨q.nameHint, fields, ""⟩
  have hq : q.Asks mode table.keys r := ⟨rfl, parts, hp, hf⟩
  have hkey : shapeKey s.fields = r.key := by
    have hplace := TypeTree.key_of_idxOf? hid
    rw [ShapeTable.keys, List.getElem?_map, hs] at hplace
    exact Option.some.inj hplace
  have hown : s.hint = firstHint requests r.key := by
    rw [hmade.hints s (List.mem_of_getElem? hs), hkey]
  cases hfirst : firstHint requests r.key with
  | some hint => exact ⟨hint, hown.trans hfirst, firstHint_hinted hasks hq hfirst⟩
  | none =>
    obtain ⟨q', hq', hparts, hint, hhint⟩ := hhint
    obtain ⟨r', hr', hask'⟩ := asked hasks hq'
    have hnone := List.findSome?_eq_none_iff.mp hfirst r' hr'
    rw [if_pos ((hq.key_eq_iff hask').mpr hparts).symm, hask'.1, hhint] at hnone
    cases hnone

end ShapeTable.MadeOf

end AbiBindings
