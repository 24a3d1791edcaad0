import AbiBindings.Proofs.Declarations

namespace AbiBindings

abbrev PlainType := Elementary × List (Option Nat)

mutual

/-- The types without parts that a parameter is made of. Those of a tuple's parts follow each other
in order. -/
def Parameter.plainTypes : Parameter → List PlainType
  | ⟨_, typeText, _, components, _⟩ =>
    match TypeExpr.parse typeText with
    | .error _ => []
    | .ok ⟨.elementary e, dims⟩ => [(e, dims)]
    | .ok ⟨.tuple, _⟩ => Parameter.plainTypesOf components

def Parameter.plainTypesOf : List Parameter → List PlainType
  | [] => []
  | p :: ps => p.plainTypes ++ Parameter.plainTypesOf ps

end

def lossText (origin : String) (t : PlainType) : String :=
  origin ++ " (`" ++ TypeExpr.text ⟨.elementary t.1, t.2⟩ ++ "`)"

def lossTexts (mode : Representation) (origin : String) (types : List PlainType) : List String :=
  (types.filter fun t => (mode.target t.1).isNone).map (lossText origin)

theorem plainTypesOf_append (ps qs : List Parameter) :
    Parameter.plainTypesOf (ps ++ qs) = Parameter.plainTypesOf ps ++ Parameter.plainTypesOf qs := by
  induction ps with
  | nil => rfl
  | cons p ps ih => simp [Parameter.plainTypesOf, ih]

theorem lossTexts_append (mode : Representation) (origin : String) (xs ys : List PlainType) :
    lossTexts mode origin (xs ++ ys) = lossTexts mode origin xs ++ lossTexts mode origin ys := by
  simp [lossTexts]

section PlainTypes

variable {origin : String} {p : Parameter} {dims : List (Option Nat)}

theorem Parameter.plainTypes_elementary {e : Elementary}
    (h : p.typeExpr origin = .ok ⟨.elementary e, dims⟩) : p.plainTypes = [(e, dims)] := by
  obtain ⟨hp, _⟩ := typeExpr_ok h
  obtain ⟨name, typeText, internalType, components, indexed⟩ := p
  simp only at hp
  simp only [plainTypes, hp]

theorem Parameter.plainTypes_tuple (h : p.typeExpr origin = .ok ⟨.tuple, dims⟩) :
    p.plainTypes = Parameter.plainTypesOf p.components := by
  obtain ⟨hp, _⟩ := typeExpr_ok h
  obtain ⟨name, typeText, internalType, components, indexed⟩ := p
  simp only at hp
  simp only [plainTypes, hp]

end PlainTypes

/-- The losses are the reports so far, each at its first place; types held are remembered right. -/
structure Gathered.Lost (mode : Representation) (g : Gathered) (texts : List String) : Prop where
  memo : g.memo.Faithful mode
  losses : g.losses = texts.eraseDups

section Losses

variable {mode : Representation} {origin : String} {texts : List String} {g g' : Gathered}

theorem Gathered.lost_empty : Gathered.empty.Lost mode [] :=
  ⟨fun _ _ hm => (List.not_mem_nil hm).elim, rfl⟩

/-- A type that the mode holds resolves, and is a loss otherwise. -/
theorem Memo.resolve_new (e : Elementary) (dims : List (Option Nat)) :
    (Memo.resolve mode [] ⟨.elementary e, dims⟩).1 =
      match mode.target e with
      | some target => .ok (Resolved.withDims ⟨.elementary e, target, e.isDynamic⟩ dims)
      | none => .error (.precisionLoss (TypeExpr.text ⟨.elementary e, dims⟩)) := by
  simp only [Memo.resolve, List.lookup_nil]
  cases mode.target e <;> rfl

theorem Gathered.losses_addLoss_eq (g : Gathered) (text : String) (h : g.losses = texts.eraseDups) :
    (g.addLoss origin text).losses = (texts ++ [origin ++ " (`" ++ text ++ "`)"]).eraseDups := by
  rw [eraseDups_concat]
  simp only [addLoss, h, List.mem_eraseDups]
  split
  · rw [List.append_nil, h]
  · rfl

theorem Gathered.memo_addLoss (g : Gathered) (text : String) :
    (g.addLoss origin text).memo = g.memo := by
  simp only [addLoss]
  split <;> rfl

theorem lossTexts_one (e : Elementary) (dims : List (Option Nat)) :
    lossTexts mode origin [(e, dims)] =
      if (mode.target e).isNone then [lossText origin (e, dims)] else [] := by
  simp only [lossTexts, List.filter_cons, List.filter_nil]
  split <;> rfl

/-- A type without parts is lost or not by itself, whatever is remembered. -/
theorem Gathered.lost_resolvePlain {typeText : String} {e : Elementary} {dims : List (Option Nat)}
    {r : Resolved} (hl : g.Lost mode texts)
    (h : g.resolvePlain mode origin typeText ⟨.elementary e, dims⟩ = .ok (r, g')) :
    g'.Lost mode (texts ++ lossTexts mode origin [(e, dims)]) := by
  obtain ⟨hr, hm⟩ := Memo.resolve_faithful hl.memo ⟨.elementary e, dims⟩
  rw [Memo.resolve_new] at hr
  rw [lossTexts_one]
  simp only [resolvePlain] at h
  cases ht : mode.target e with
  | some target =>
    simp only [ht] at hr
    split at h
    · rename_i he
      cases h
      rw [he] at hm
      refine ⟨hm, ?_⟩
      simpa using hl.losses
    · rename_i he
      rw [he] at hr
      cases hr
    · cases h
  | none =>
    simp only [ht] at hr
    split at h
    · rename_i he
      rw [he] at hr
      cases hr
    · rename_i text memo he
      cases h
      rw [he] at hr hm
      cases hr
      exact ⟨by rw [memo_addLoss]; exact hm, losses_addLoss_eq { g with memo } _ hl.losses⟩
    · cases h

mutual

/-- A parameter adds the losses among the types it is made of. -/
theorem lost_resolveParameter {texts : List String} {g g' : Gathered} {r : Resolved} :
    (p : Parameter) → g.Lost mode texts → resolveParameter mode origin g p = .ok (r, g') →
      g'.Lost mode (texts ++ lossTexts mode origin p.plainTypes)
  | ⟨name, typeText, internalType, components, indexed⟩, hl, h => by
    rcases resolveParameter_cases h with
      ⟨e, dims, ht, hp⟩ | ⟨dims, types, g₁, id, shapes, ht, hc, _, _, rfl⟩
    · rw [Parameter.plainTypes_elementary ht]
      exact Gathered.lost_resolvePlain hl hp
    · rw [Parameter.plainTypes_tuple ht]
      -- Interning the tuple touches neither what is remembered nor the losses.
      obtain ⟨hm, hlosses⟩ := lost_resolveParameters components hl hc
      exact ⟨hm, hlosses⟩

theorem lost_resolveParameters {texts : List String} {g g' : Gathered} {rs : List Resolved} :
    (ps : List Parameter) → g.Lost mode texts → resolveParameters mode origin g ps = .ok (rs, g') →
      g'.Lost mode (texts ++ lossTexts mode origin (Parameter.plainTypesOf ps))
  | [], hl, h => by
    cases h
    rw [Parameter.plainTypesOf, lossTexts, List.filter_nil, List.map_nil, List.append_nil]
    exact hl
  | p :: ps, hl, h => by
    obtain ⟨r, g₁, rest, hr, hrest, _⟩ := resolveParameters_cons h
    have hl₁ := lost_resolveParameter p hl hr
    have hl' := lost_resolveParameters ps hl₁ hrest
    rwa [List.append_assoc, ← lossTexts_append] at hl'

end

/-- The types that a declaration mentions, those of its inputs before those of its results. -/
def Declaration.plainTypes (d : Declaration) : List PlainType :=
  Parameter.plainTypesOf (d.inputs ++ d.results)

/-- Resolving a declaration reports just the types it mentions that the mode lacks. -/
theorem Declaration.lost_resolve {d : Declaration} {sig : String} {r : ResolvedDeclaration}
    (hl : g.Lost mode texts) (h : d.resolve mode g sig = .ok (r, g')) :
    g'.Lost mode (texts ++ lossTexts mode d.describe d.plainTypes) := by
  obtain ⟨inputs, g₁, outputs, hi, ho, _⟩ := Declaration.resolve_ok h
  have hl' := lost_resolveParameters _ (lost_resolveParameters _ hl hi) ho
  rwa [List.append_assoc, ← lossTexts_append, ← plainTypesOf_append] at hl'

def declaredLosses (mode : Representation) (ds : List Declaration) : List String :=
  ds.flatMap fun d => lossTexts mode d.describe d.plainTypes

/-- The losses of a run are those of the declarations kept, in order. -/
theorem lost_resolveDeclarations {seen : List (Kind × String)} {ds : List Declaration}
    {rs : List ResolvedDeclaration} (hl : g.Lost mode texts)
    (h : (resolveDeclarations mode seen g ds).2 = .ok (rs, g')) :
    g'.Lost mode (texts ++ declaredLosses mode (rs.map (·.declaration))) := by
  induction ds generalizing seen g rs texts with
  | nil =>
    cases h
    simpa [declaredLosses] using hl
  | cons d ds ih =>
    obtain ⟨sig, _, ⟨_, hrest⟩ | ⟨_, r, g₁, rest, hr, hrest, rfl⟩⟩ := resolveDeclarations_cons h
    · exact ih hl hrest
    · have hl' := ih (Declaration.lost_resolve hl hr) hrest
      obtain ⟨_, _, _, _, _, rfl⟩ := Declaration.resolve_ok hr
      rwa [List.append_assoc] at hl'

/-- Words of 256 bits hold every integer. -/
theorem lossTexts_precise (origin : String) (types : List PlainType) :
    lossTexts .precise origin types = [] := by
  have hheld : ∀ e, (Representation.precise.target e).isNone = false := by
    intro e
    cases e <;> rfl
  simp [lossTexts, hheld]

/-- Nothing is lost in precise mode. -/
theorem lossless_precise {seen : List (Kind × String)} {ds : List Declaration}
    {rs : List ResolvedDeclaration} (hl : g.Lost .precise [])
    (h : (resolveDeclarations .precise seen g ds).2 = .ok (rs, g')) : g'.losses = [] := by
  have hnone : declaredLosses .precise (rs.map (·.declaration)) = [] := by
    simp [declaredLosses, lossTexts_precise]
  rw [(lost_resolveDeclarations hl h).losses, hnone]
  rfl

end Losses

end AbiBindings
