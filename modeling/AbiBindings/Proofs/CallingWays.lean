import AbiBindings.Proofs.Reports
import Mathlib.Data.List.Infix

namespace AbiBindings

/-- The beginnings of methods that give a function the way of calling that it lacks. -/
def IsAlternate (name : String) : Prop :=
  "send_".toList <+: name.toList ∨ "call_".toList <+: name.toList

instance (name : String) : Decidable (IsAlternate name) := inferInstanceAs (Decidable (_ ∨ _))

section Names

variable {base : String}

/-- A name that is long enough decides alone how all names that extend it begin. -/
theorem isAlternate_append (h : 5 ≤ base.length) (rest : String) :
    IsAlternate (base ++ rest) ↔ IsAlternate base := by
  have hsend : "send_".toList.length ≤ base.toList.length := by simpa [String.length_toList] using h
  have hcall : "call_".toList.length ≤ base.toList.length := by simpa [String.length_toList] using h
  simp only [IsAlternate, String.toList_append]
  rw [List.isPrefix_append_of_length hsend, List.isPrefix_append_of_length hcall]

theorem isAlternate_send (method rest : String) : IsAlternate ("send_" ++ method ++ rest) :=
  .inl (by simp)

theorem isAlternate_call (method rest : String) : IsAlternate ("call_" ++ method ++ rest) :=
  .inr (by simp)

theorem not_isAlternate_encode (rest : String) : ¬ IsAlternate ("encode_" ++ rest) := by
  rw [isAlternate_append (by decide)]
  decide

end Names

namespace Scope

def AgreeOn (P : String → Prop) (s t : Scope) : Prop := ∀ n, P n → (n ∈ s.taken ↔ n ∈ t.taken)

variable {P : String → Prop} {s s' t t' u : Scope} {base separator name name' : String}

theorem AgreeOn.refl (s : Scope) : s.AgreeOn P s := fun _ _ => Iff.rfl

theorem AgreeOn.symm (h : s.AgreeOn P t) : t.AgreeOn P s := fun n hn => (h n hn).symm

theorem AgreeOn.trans (h : s.AgreeOn P t) (h' : t.AgreeOn P u) : s.AgreeOn P u :=
  fun n hn => (h n hn).trans (h' n hn)

/-- A name of another kind makes no difference. -/
theorem agreeOn_claimed (h : s.claimNumbered base separator = (name, s'))
    (hb : ∀ rest, ¬ P (base ++ rest)) : s.AgreeOn P s' := by
  obtain ⟨rest, rfl⟩ := claimNumbered_extends h
  obtain ⟨rfl, _, _⟩ := claimNumbered_cases h
  intro n hn
  have hne : n ≠ base ++ rest := fun he => hb rest (he ▸ hn)
  simp [hne]

/-- Where all candidates are of a kind on which two scopes agree, both grant the same one. The numbers
are compared by what each scope passed over, since how far a search may go differs. -/
theorem AgreeOn.claim (h : s.AgreeOn P t) (hb : ∀ rest, P (base ++ rest))
    (hs : s.claimNumbered base separator = (name, s'))
    (ht : t.claimNumbered base separator = (name', t')) : name' = name ∧ s'.AgreeOn P t' := by
  have hbase : P base := by simpa using hb ""
  have hnumbered : ∀ k, P (numbered base separator k) := by
    intro k
    rw [numbered, String.append_assoc]
    exact hb _
  obtain ⟨rfl, hnew, hcase⟩ := claimNumbered_cases hs
  obtain ⟨rfl, hnew', hcase'⟩ := claimNumbered_cases ht
  have hname : name' = name := by
    rcases hcase with ⟨hfree, rfl⟩ | ⟨hm, k, hk, rfl, hleast⟩
    · rcases hcase' with ⟨_, rfl⟩ | ⟨hm', _⟩
      · rfl
      · exact absurd ((h name hbase).mpr hm') hfree
    · rcases hcase' with ⟨hfree', _⟩ | ⟨_, k', hk', rfl, hleast'⟩
      · exact absurd ((h base hbase).mp hm) hfree'
      · rcases Nat.lt_trichotomy k k' with hlt | rfl | hlt
        · exact absurd ((h _ (hnumbered k)).mpr (hleast' k hk hlt)) hnew
        · rfl
        · exact absurd ((h _ (hnumbered k')).mp (hleast k' hk' hlt)) hnew'
  subst hname
  refine ⟨rfl, ?_⟩
  intro n hn
  simp only [List.mem_cons, h n hn]

end Scope

/-- Methods of other beginnings are in use in both scopes or in none. -/
def Scope.Unmoved (s t : Scope) : Prop := s.AgreeOn (fun name => ¬ IsAlternate name) t

/-- A name that begins like an alternate moves no other name. -/
theorem Scope.unmoved_claimed {s s' : Scope} {base separator name : String}
    (h : s.claimNumbered base separator = (name, s'))
    (hb : ∀ rest, IsAlternate (base ++ rest)) : s.Unmoved s' :=
  agreeOn_claimed h fun rest hnot => hnot (hb rest)

/-- A function with both ways of calling, the one it has by its mutability under the same method. -/
structure FunctionBinding.Gains (readOnly : Bool) (f f' : FunctionBinding) : Prop where
  rest : f' = { f with call := f'.call, transaction := f'.transaction }
  reading : readOnly = true → f.transaction = none ∧ f'.transaction.isSome ∧
    ∃ method, f.call = some method ∧ f'.call = some method
  sending : readOnly = false → f.call = none ∧ f'.call.isSome ∧
    ∃ method, f.transaction = some method ∧ f'.transaction = some method

/-- An event with the same record and fields. Its filter has the same method unless it begins like a
method added to a function. -/
structure EventBinding.Yields (e e' : EventBinding) : Prop where
  rest : e' = { e with filterMethod := e'.filterMethod }
  alternate : IsAlternate e'.filterMethod ↔ IsAlternate e.filterMethod
  keeps : ¬ IsAlternate e.filterMethod → e'.filterMethod = e.filterMethod

section Functions

variable {methods methods' : Scope} {fs fs' : List FunctionBinding}

/-- Functions with one way of calling gain the other, under names that begin like it. -/
theorem addAlternates_gains (h : addAlternates methods fs = (fs', methods'))
    (hone : ∀ f ∈ fs, f.transaction.isSome = !f.call.isSome) :
    List.Forall₂ (fun f f' => f.Gains f.call.isSome f') fs fs' ∧ methods.Unmoved methods' := by
  induction fs generalizing methods fs' with
  | nil =>
    cases h
    exact ⟨.nil, .refl _⟩
  | cons f fs ih =>
    obtain ⟨hf, hfs⟩ := List.forall_mem_cons.mp hone
    cases hc : f.call with
    | some call =>
      have ht : f.transaction = none := by simpa [hc] using hf
      obtain ⟨⟨name, methods₁⟩, hn⟩ :
        ∃ p, methods.claimNumbered ("send_" ++ call) "_" = p := ⟨_, rfl⟩
      obtain ⟨⟨rest, methods₂⟩, hr⟩ : ∃ p, addAlternates methods₁ fs = p := ⟨_, rfl⟩
      simp only [addAlternates, hc, ht, hn, hr, Prod.mk.injEq] at h
      obtain ⟨rfl, rfl⟩ := h
      obtain ⟨hgains, hunmoved⟩ := ih hr hfs
      have hclaimed : methods.Unmoved methods₁ := Scope.unmoved_claimed hn (isAlternate_send _)
      refine ⟨.cons ⟨rfl, ?_, ?_⟩ hgains, hclaimed.trans hunmoved⟩
      · intro _
        exact ⟨ht, rfl, call, hc, rfl⟩
      · intro hfalse
        simp [hc] at hfalse
    | none =>
      obtain ⟨transaction, ht⟩ : ∃ transaction, f.transaction = some transaction := by
        simpa [hc, Option.isSome_iff_exists] using hf
      obtain ⟨⟨name, methods₁⟩, hn⟩ :
        ∃ p, methods.claimNumbered ("call_" ++ transaction) "_" = p := ⟨_, rfl⟩
      obtain ⟨⟨rest, methods₂⟩, hr⟩ : ∃ p, addAlternates methods₁ fs = p := ⟨_, rfl⟩
      simp only [addAlternates, hc, ht, hn, hr, Prod.mk.injEq] at h
      obtain ⟨rfl, rfl⟩ := h
      obtain ⟨hgains, hunmoved⟩ := ih hr hfs
      have hclaimed : methods.Unmoved methods₁ := Scope.unmoved_claimed hn (isAlternate_call _)
      refine ⟨.cons ⟨rfl, ?_, ?_⟩ hgains, hclaimed.trans hunmoved⟩
      · intro htrue
        simp [hc] at htrue
      · intro _
        exact ⟨hc, rfl, transaction, ht, rfl⟩

/-- No encoder begins like a method added to a function, so encoders get the same names. -/
theorem nameEncoders_gains {primaries : List String} {gs gs' : List FunctionBinding}
    {end₁ end₂ : Scope} (hm : methods.Unmoved methods')
    (hgains : List.Forall₂ (fun f f' => f.Gains f.call.isSome f') fs fs')
    (h : nameEncoders methods (fs.zip primaries) = (gs, end₁))
    (h' : nameEncoders methods' (fs'.zip primaries) = (gs', end₂)) :
    List.Forall₂ (fun f f' => f.Gains f.call.isSome f') gs gs' := by
  induction hgains generalizing methods methods' primaries gs gs' with
  | nil =>
    cases h
    cases h'
    exact .nil
  | @cons f f' fs fs' hf _ ih =>
    cases primaries with
    | nil =>
      cases h
      cases h'
      exact .nil
    | cons primary primaries =>
      obtain ⟨⟨name, methods₁⟩, hn⟩ :
        ∃ p, methods.claimNumbered ("encode_" ++ primary) "_" = p := ⟨_, rfl⟩
      obtain ⟨⟨name', methods₁'⟩, hn'⟩ :
        ∃ p, methods'.claimNumbered ("encode_" ++ primary) "_" = p := ⟨_, rfl⟩
      obtain ⟨⟨rest, methods₂⟩, hr⟩ :
        ∃ p, nameEncoders methods₁ (fs.zip primaries) = p := ⟨_, rfl⟩
      obtain ⟨⟨rest', methods₂'⟩, hr'⟩ :
        ∃ p, nameEncoders methods₁' (fs'.zip primaries) = p := ⟨_, rfl⟩
      simp only [List.zip_cons_cons, nameEncoders, hn, hr, Prod.mk.injEq] at h
      simp only [List.zip_cons_cons, nameEncoders, hn', hr', Prod.mk.injEq] at h'
      obtain ⟨rfl, rfl⟩ := h
      obtain ⟨rfl, rfl⟩ := h'
      obtain ⟨rfl, hm₁⟩ := hm.claim (fun rest => by
        rw [String.append_assoc]
        exact not_isAlternate_encode _) hn hn'
      refine .cons ⟨?_, hf.reading, hf.sending⟩ (ih hm₁ hr hr')
      rw [hf.rest]

end Functions

section Events

variable {types methods methods' : Scope} {ds : List ResolvedDeclaration}

/-- Only a filter that begins like an alternate can be moved by one. -/
theorem claimFilter_yields {abiName filter filter' : String} {methods₁ methods₁' : Scope}
    (hm : methods.Unmoved methods')
    (h : methods.claimNumbered (Naming.valueIdent abiName "log" ++ "_events") "_" =
      (filter, methods₁))
    (h' : methods'.claimNumbered (Naming.valueIdent abiName "log" ++ "_events") "_" =
      (filter', methods₁')) :
    (IsAlternate filter' ↔ IsAlternate filter) ∧ (¬ IsAlternate filter → filter' = filter) ∧
      methods₁.Unmoved methods₁' := by
  obtain ⟨base, hbase⟩ : ∃ base, Naming.valueIdent abiName "log" ++ "_events" = base := ⟨_, rfl⟩
  have hlong : 5 ≤ base.length := by
    rw [← hbase, String.length_append]
    have : "_events".length = 7 := by decide
    omega
  rw [hbase] at h h'
  by_cases halt : IsAlternate base
  · have hall : ∀ rest, IsAlternate (base ++ rest) :=
      fun rest => (isAlternate_append hlong rest).mpr halt
    obtain ⟨rest, rfl⟩ := Scope.claimNumbered_extends h
    obtain ⟨rest', rfl⟩ := Scope.claimNumbered_extends h'
    have hleft : methods.Unmoved methods₁ := Scope.unmoved_claimed h hall
    have hright : methods'.Unmoved methods₁' := Scope.unmoved_claimed h' hall
    refine ⟨by simp [hall], fun hnot => absurd (hall rest) hnot, ?_⟩
    exact (hleft.symm.trans hm).trans hright
  · obtain ⟨rfl, hm₁⟩ := hm.claim (fun rest => by rwa [isAlternate_append hlong]) h h'
    exact ⟨Iff.rfl, fun _ => rfl, hm₁⟩

/-- Events are the same beside alternates, a filter that begins like one aside. -/
theorem bindEvents_yields {events events' : List EventBinding} {diags diags' : List Diagnostic}
    {types₁ types₁' methods₁ methods₁' : Scope} (hm : methods.Unmoved methods')
    (h : bindEvents types methods ds = (events, diags, types₁, methods₁))
    (h' : bindEvents types methods' ds = (events', diags', types₁', methods₁')) :
    List.Forall₂ EventBinding.Yields events events' ∧ diags' = diags ∧ types₁' = types₁ ∧
      methods₁.Unmoved methods₁' := by
  induction ds generalizing types methods methods' events events' diags diags' with
  | nil =>
    cases h
    cases h'
    exact ⟨.nil, rfl, rfl, hm⟩
  | cons d ds ih =>
    obtain ⟨⟨filter, methods₂⟩, hf⟩ : ∃ p, methods.claimNumbered
      (Naming.valueIdent d.declaration.nameOrKind "log" ++ "_events") "_" = p := ⟨_, rfl⟩
    obtain ⟨⟨filter', methods₂'⟩, hf'⟩ : ∃ p, methods'.claimNumbered
      (Naming.valueIdent d.declaration.nameOrKind "log" ++ "_events") "_" = p := ⟨_, rfl⟩
    obtain ⟨⟨rest, more, types₃, methods₃⟩, hrest⟩ : ∃ p, bindEvents
      (claimRecord d.declaration.nameOrKind "Event" types).2 methods₂ ds = p := ⟨_, rfl⟩
    obtain ⟨⟨rest', more', types₃', methods₃'⟩, hrest'⟩ : ∃ p, bindEvents
      (claimRecord d.declaration.nameOrKind "Event" types).2 methods₂' ds = p := ⟨_, rfl⟩
    simp only [bindEvents, hf, hrest, Prod.mk.injEq] at h
    simp only [bindEvents, hf', hrest', Prod.mk.injEq] at h'
    obtain ⟨rfl, rfl, rfl, rfl⟩ := h
    obtain ⟨rfl, rfl, rfl, rfl⟩ := h'
    obtain ⟨halt, hkeeps, hm₂⟩ := claimFilter_yields hm hf hf'
    obtain ⟨hyields, rfl, rfl, hm₃⟩ := ih hm₂ hrest hrest'
    exact ⟨.cons ⟨rfl, halt, hkeeps⟩ hyields, rfl, rfl, hm₃⟩

end Events

theorem bindFunction_oneWay (d : ResolvedDeclaration) (method : String) :
    (bindFunction d method).1.transaction.isSome = !(bindFunction d method).1.call.isSome := by
  simp only [bindFunction]
  cases d.declaration.mutability.isReadOnly <;> rfl

/-- Bindings of one contract with one way of calling each function and with both. -/
structure ContractBindings.Gains (b b' : ContractBindings) : Prop where
  rest : b' = { b with functions := b'.functions, events := b'.events }
  functions : List.Forall₂ (fun f f' => f.Gains f.call.isSome f') b.functions b'.functions
  events : List.Forall₂ EventBinding.Yields b.events b'.events

section Building

variable (options : Options) (contractName : String) (modulePath : ModulePath)

/-- What the added methods take away from later names are filters that begin like them. -/
theorem buildBindings_gains (shapes : ShapeTable) (ds : List ResolvedDeclaration)
    (bytecode : Option String) :
    let one := buildBindings { options with callAndSend := false } contractName modulePath shapes ds
      bytecode
    let both := buildBindings { options with callAndSend := true } contractName modulePath shapes ds
      bytecode
    both.diagnostics = one.diagnostics ∧
      ((∃ e, one.result = .error e ∧ both.result = .error e) ∨
        ∃ b b', one.result = .ok b ∧ both.result = .ok b' ∧ b.Gains b') := by
  intro one both
  obtain ⟨⟨typeName, diags, types⟩, hcontract⟩ : ∃ p, nameContract contractName = p := ⟨_, rfl⟩
  obtain ⟨⟨structs, diags₁, types₁⟩, hstructs⟩ : ∃ p, shapes.name types typeName = p := ⟨_, rfl⟩
  cases hclaim : claimGroups (.reserving reservedMethodNames) (overloads ds) with
  | error e =>
    simp only [one, both, buildBindings, hcontract, hstructs, hclaim]
    exact ⟨trivial, .inl ⟨e, rfl, rfl⟩⟩
  | ok x =>
    obtain ⟨claimed, methods⟩ := x
    obtain ⟨bound, hbound⟩ :
      ∃ fs, claimed.map (fun x => (bindFunction x.1 x.2).1) = fs := ⟨_, rfl⟩
    obtain ⟨⟨functions, methods'⟩, halternates⟩ : ∃ p, addAlternates methods bound = p := ⟨_, rfl⟩
    obtain ⟨⟨events, diags₂, types₂, methods₂⟩, hevents⟩ : ∃ p,
      bindEvents types₁ methods (ofKind .event ds) = p := ⟨_, rfl⟩
    obtain ⟨⟨events', diags₂', types₂', methods₂'⟩, hevents'⟩ : ∃ p,
      bindEvents types₁ methods' (ofKind .event ds) = p := ⟨_, rfl⟩
    obtain ⟨⟨encoded, methods₃⟩, hencoders⟩ : ∃ p,
      nameEncoders methods₂ (bound.zip (bound.map (·.primary))) = p := ⟨_, rfl⟩
    obtain ⟨⟨encoded', methods₃'⟩, hencoders'⟩ : ∃ p,
      nameEncoders methods₂' (functions.zip (bound.map (·.primary))) = p := ⟨_, rfl⟩
    have hone : ∀ f ∈ bound, f.transaction.isSome = !f.call.isSome := by
      rw [← hbound]
      exact List.forall_mem_map.mpr fun x _ => bindFunction_oneWay x.1 x.2
    obtain ⟨hgains, hmethods⟩ := addAlternates_gains halternates hone
    obtain ⟨hyields, rfl, rfl, hmethods₂⟩ := bindEvents_yields hmethods hevents hevents'
    have hfunctions := nameEncoders_gains hmethods₂ hgains hencoders hencoders'
    simp only [one, both, buildBindings, hcontract, hstructs, hclaim, List.map_map,
      Function.comp_def, hbound, halternates, hevents, hevents', hencoders, hencoders',
      Bool.false_eq_true, ↓reduceIte]
    exact ⟨trivial, .inr ⟨_, _, rfl, rfl, by dsimp only, hfunctions, hyields⟩⟩

/-- With both ways of calling the same compiles, fails and is reported. -/
theorem compileDeclarations_gains (ds : List Declaration) (bytecode : Option String) :
    let one := compileDeclarations { options with callAndSend := false } contractName modulePath ds
      bytecode
    let both := compileDeclarations { options with callAndSend := true } contractName modulePath ds
      bytecode
    both.diagnostics = one.diagnostics ∧
      ((∃ e, one.result = .error e ∧ both.result = .error e) ∨
        ∃ b b', one.result = .ok b ∧ both.result = .ok b' ∧ b.Gains b') := by
  intro one both
  rcases compileDeclarations_cases options.representation ds with
    ⟨diagnostics, e, hrun⟩ | ⟨diagnostics, rs, g, hrun⟩
  · have hone : one = _ := hrun { options with callAndSend := false } _ _ _ rfl
    have hboth : both = _ := hrun { options with callAndSend := true } _ _ _ rfl
    rw [hone, hboth]
    exact ⟨rfl, .inl ⟨e, rfl, rfl⟩⟩
  · have hone : one = _ := hrun { options with callAndSend := false } _ _ _ rfl
    have hboth : both = _ := hrun { options with callAndSend := true } _ _ _ rfl
    obtain ⟨hdiagnostics, hresults⟩ :=
      buildBindings_gains options contractName modulePath g.shapes rs bytecode
    rw [hone, hboth]
    exact ⟨congrArg (diagnostics ++ ·) hdiagnostics, hresults⟩

end Building

/-- A function with one way of calling has the one that the first declaration with its signature
asks for. -/
theorem ContractBindings.Compiled.declared_ways {b : ContractBindings} {mode : Representation}
    {ds : List Declaration} {bytecode : Option String} {rs : List ResolvedDeclaration}
    {g : Gathered} (h : b.Compiled mode ds bytecode rs g)
    (hways : b.functions.map (·.ways) = ((overloads rs).flatMap (·.2)).map (·.ways false)) :
    ∀ f ∈ b.functions, ∃ d, firstDeclared ds .function f.signature = some d ∧
      f.call.isSome = d.mutability.isReadOnly := by
  intro f hf
  have hm : (f.face, f.ways) ∈ b.functions.map fun f => (f.face, f.ways) := List.mem_map_of_mem hf
  rw [map_pair h.function_faces hways] at hm
  obtain ⟨r, hr, he⟩ := List.mem_map.mp hm
  obtain ⟨hface, hfw⟩ := Prod.mk.inj he
  obtain ⟨hr, hk⟩ := mem_overloads hr
  have hsig : r.signature = f.signature := congrArg (·.signature) hface
  have hcall : (r.declaration.mutability.isReadOnly || false) = f.call.isSome :=
    congrArg (·.1) hfw
  refine ⟨r.declaration, ?_, ?_⟩
  · rw [← hsig]
    exact h.firstDeclared_eq hr hk rfl
  · rw [← hcall, Bool.or_false]

/-- Asking for both ways of calling adds to each function the way that its mutability does not ask
for. Beyond that it moves nothing but filters that begin like the added methods. -/
theorem calling_ways_apart (options : Options) (contractName : String) (modulePath : ModulePath)
    (ds : List Declaration) (bytecode : Option String) :
    let one := compileDeclarations { options with callAndSend := false } contractName modulePath ds
      bytecode
    let both := compileDeclarations { options with callAndSend := true } contractName modulePath ds
      bytecode
    both.diagnostics = one.diagnostics ∧
      (∀ e, one.result = .error e → both.result = .error e) ∧
      ∀ b, one.result = .ok b → ∃ b', both.result = .ok b' ∧
        b' = { b with functions := b'.functions, events := b'.events } ∧
        List.Forall₂
          (fun f f' => ∃ d, firstDeclared ds .function f.signature = some d ∧
            f.Gains d.mutability.isReadOnly f')
          b.functions b'.functions ∧
        List.Forall₂ EventBinding.Yields b.events b'.events := by
  intro one both
  obtain ⟨hdiagnostics, hresults⟩ :=
    compileDeclarations_gains options contractName modulePath ds bytecode
  refine ⟨hdiagnostics, ?_, ?_⟩
  · intro e he
    rcases hresults with ⟨e', he', hboth⟩ | ⟨b, _, hb, _, _⟩
    · cases he.symm.trans he'
      exact hboth
    · cases he.symm.trans hb
  · intro b hb
    rcases hresults with ⟨e, he, _⟩ | ⟨b₁, b', hb₁, hb', hgains⟩
    · cases hb.symm.trans he
    · cases hb.symm.trans hb₁
      obtain ⟨rs, g, hc, hways⟩ := compileDeclarations_ways hb
      refine ⟨b', hb', hgains.rest, ?_, hgains.events⟩
      have hall := (List.forall₂_and_left _ _).mpr ⟨hc.declared_ways hways, hgains.functions⟩
      refine hall.imp ?_
      rintro f f' ⟨⟨d, hd, hcall⟩, hf⟩
      exact ⟨d, hd, hcall ▸ hf⟩

section Relay

/-- The method that sends the read-only function has the name of an event's filter. -/
def relay : List Declaration :=
  [{ kind := .function, name := some "events", mutability := .view },
    { kind := .function, name := some "ping" },
    { kind := .event, name := some "send" },
    { kind := .event, name := some "pinged" }]

def relayBindings (callAndSend : Bool) : Except Failure ContractBindings :=
  (compileDeclarations { callAndSend } "Relay" ⟨["market"]⟩ relay none).result

theorem relayBindings_ok (callAndSend : Bool) : ∃ b, relayBindings callAndSend = .ok b ∧
    b.methodNames = if callAndSend then
      ["events", "send_events", "call_ping", "ping", "send_events_2", "pinged_events",
        "encode_events", "encode_ping"]
    else ["events", "ping", "send_events", "pinged_events", "encode_events", "encode_ping"] := by
  cases callAndSend with
  | false => exact ok_of_view (by decide +kernel)
  | true => exact ok_of_view (by decide +kernel)

/-- The filter makes room for the added method, and nothing else moves. -/
theorem calling_ways_apart_relay : ∃ b b', relayBindings false = .ok b ∧
    relayBindings true = .ok b' ∧
    b.methodNames =
      ["events", "ping", "send_events", "pinged_events", "encode_events", "encode_ping"] ∧
    b'.methodNames = ["events", "send_events", "call_ping", "ping", "send_events_2",
      "pinged_events", "encode_events", "encode_ping"] ∧
    b' = { b with functions := b'.functions, events := b'.events } ∧
    List.Forall₂
      (fun f f' => ∃ d, firstDeclared relay .function f.signature = some d ∧
        f.Gains d.mutability.isReadOnly f') b.functions b'.functions ∧
    List.Forall₂ EventBinding.Yields b.events b'.events := by
  obtain ⟨b, hb, hnames⟩ := relayBindings_ok false
  obtain ⟨b₁, hb₁, hnames₁⟩ := relayBindings_ok true
  obtain ⟨_, _, hboth⟩ := calling_ways_apart {} "Relay" ⟨["market"]⟩ relay none
  obtain ⟨b', hb', hrest⟩ := hboth b hb
  obtain rfl := Except.ok.inj (hb'.symm.trans hb₁)
  exact ⟨b, b', hb, hb', hnames, hnames₁, hrest⟩

end Relay

end AbiBindings
