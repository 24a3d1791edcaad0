import Mathlib.Data.List.Induction
import AbiBindings.Proofs.Carries
import AbiBindings.Proofs.DistinctNames
import AbiBindings.Proofs.KeptDeclarations
import AbiBindings.Proofs.SignatureNames

namespace AbiBindings

theorem Declaration.Signed.name_unique {d d' : Declaration} {sig : String} (h : d.Signed sig)
    (h' : d'.Signed sig) : d.nameOrKind = d'.nameOrKind :=
  signature_name_unique h h'

section Lists

variable {α β γ : Type}

/-- Of two values left without repeats, the one that came up first stands first. -/
theorem eraseDups_order [DecidableEq α] (xs : List α) :
    xs.eraseDups.Pairwise fun a b =>
      a ≠ b ∧ ∃ before after, xs = before ++ a :: after ∧ b ∉ before := by
  induction xs using List.reverseRecOn with
  | nil => exact .nil
  | append_singleton xs c ih =>
    have hold : xs.eraseDups.Pairwise fun a b =>
        a ≠ b ∧ ∃ before after, xs ++ [c] = before ++ a :: after ∧ b ∉ before := by
      refine ih.imp ?_
      rintro a b ⟨hne, before, after, rfl, hb⟩
      exact ⟨hne, before, after ++ [c], List.append_assoc .., hb⟩
    rw [eraseDups_concat]
    split
    · rwa [List.append_nil]
    · rename_i hc
      refine List.pairwise_append.mpr ⟨hold, List.pairwise_singleton _ _, ?_⟩
      intro a ha b hb
      obtain rfl := List.mem_singleton.mp hb
      obtain ⟨before, after, rfl⟩ := List.append_of_mem (List.mem_eraseDups.mp ha)
      refine ⟨?_, before, after ++ [b], List.append_assoc .., ?_⟩
      · rintro rfl
        exact hc (List.mem_append_right _ List.mem_cons_self)
      · intro hb
        exact hc (List.mem_append_left _ hb)

/-- Lists that agree in two views agree in the pair of them. -/
theorem map_pair {δ : Type} {f : α → γ} {g : α → δ} {f' : β → γ} {g' : β → δ} {xs : List α}
    {ys : List β} (hf : xs.map f = ys.map f') (hg : xs.map g = ys.map g') :
    (xs.map fun x => (f x, g x)) = ys.map fun y => (f' y, g' y) := by
  calc
    (xs.map fun x => (f x, g x)) = (xs.map f).zip (xs.map g) := List.zip_map'.symm
    _ = (ys.map f').zip (ys.map g') := by rw [hf, hg]
    _ = ys.map fun y => (f' y, g' y) := List.zip_map'

/-- Two lists with the same image belong together entry by entry. -/
theorem forall₂_of_map_eq {f : α → γ} {g : β → γ} {xs : List α} {ys : List β}
    {P : α → β → Prop} (h : xs.map f = ys.map g)
    (hP : ∀ x ∈ xs, ∀ y ∈ ys, f x = g y → P x y) : List.Forall₂ P xs ys := by
  induction xs generalizing ys with
  | nil =>
    cases ys with
    | nil => exact .nil
    | cons y ys => cases h
  | cons x xs ih =>
    cases ys with
    | nil => cases h
    | cons y ys =>
      obtain ⟨hxy, hrest⟩ := List.cons.inj h
      refine .cons (hP x List.mem_cons_self y List.mem_cons_self hxy) (ih hrest ?_)
      intro x' hx' y' hy'
      exact hP x' (List.mem_cons_of_mem _ hx') y' (List.mem_cons_of_mem _ hy')

end Lists

/-- Bindings stand for the declarations that come first of their kind with their signatures: each for
the one at its place, and none of these is left out. -/
structure StandsFor {α : Type} (ds : List Declaration) (kind : Kind) (signature : α → String)
    (carries : α → Declaration → Prop) (xs : List α) (places : List Nat) : Prop where
  each : List.Forall₂
    (fun x i => ∃ d, FirstSigned ds kind i d (signature x) ∧ carries x d) xs places
  once : places.Nodup
  all : ∀ i d sig, FirstSigned ds kind i d sig → i ∈ places

def keptOf (kind : Kind) (kept : List (Nat × ResolvedDeclaration)) :
    List (Nat × ResolvedDeclaration) :=
  kept.filter fun x => x.2.declaration.kind = kind

/-- Functions are kept by name, names in order of first appearance. -/
def functionsByName (kept : List (Nat × ResolvedDeclaration)) :
    List (Nat × ResolvedDeclaration) :=
  ((keptOf .function kept).map fun x => x.2.declaration.nameOrKind).eraseDups.flatMap fun name =>
    (keptOf .function kept).filter fun x => x.2.declaration.nameOrKind = name

section Kinds

variable {ds : List Declaration} {kind : Kind} {kept : List (Nat × ResolvedDeclaration)}
variable {x : Nat × ResolvedDeclaration}

theorem mem_keptOf : x ∈ keptOf kind kept ↔ x ∈ kept ∧ x.2.declaration.kind = kind := by
  simp [keptOf]

theorem ofKind_kept : ofKind kind (kept.map (·.2)) = (keptOf kind kept).map (·.2) := by
  rw [ofKind, List.filter_map]
  rfl

theorem overloads_kept :
    (overloads (kept.map (·.2))).flatMap (·.2) = (functionsByName kept).map (·.2) := by
  simp only [overloads, functionsByName, keptOf, List.flatMap_map, List.map_flatMap,
    List.filter_map, List.map_map, Function.comp_def]

theorem mem_functionsByName : x ∈ functionsByName kept ↔ x ∈ keptOf .function kept := by
  simp only [functionsByName, List.mem_flatMap, List.mem_eraseDups, List.mem_filter,
    decide_eq_true_eq]
  constructor
  · rintro ⟨_, _, hx, _⟩
    exact hx
  · intro hx
    exact ⟨_, List.mem_map_of_mem hx, hx, rfl⟩

theorem Kept.keptOf_ordered (h : Kept [] ds kept) (kind : Kind) :
    (keptOf kind kept).Pairwise fun x y => x.1 < y.1 :=
  (h.ordered.imp And.left).sublist List.filter_sublist

/-- Bindings made from all that is kept of a kind stand for it. -/
theorem Kept.standsFor {α γ : Type} {signature : α → String} {carries : α → Declaration → Prop}
    {xs : List α} {entries : List (Nat × ResolvedDeclaration)} {face : α → γ}
    {mk : ResolvedDeclaration → γ} (h : Kept [] ds kept) (hn : kind.isNamed = true)
    (hmem : ∀ y, y ∈ entries ↔ y ∈ keptOf kind kept) (honce : (entries.map (·.1)).Nodup)
    (hfaces : xs.map face = (entries.map (·.2)).map mk)
    (hcarries : ∀ x ∈ xs, ∀ y ∈ entries, face x = mk y.2 →
      signature x = y.2.signature ∧ carries x y.2.declaration) :
    StandsFor ds kind signature carries xs (entries.map (·.1)) := by
  refine ⟨?_, honce, ?_⟩
  · rw [List.map_map] at hfaces
    rw [List.forall₂_map_right_iff]
    refine forall₂_of_map_eq hfaces ?_
    intro x hx y hy hxy
    obtain ⟨hsig, hc⟩ := hcarries x hx y hy hxy
    obtain ⟨hy, hk⟩ := mem_keptOf.mp ((hmem y).mp hy)
    have hfirst := h.firstSigned hy (hk ▸ hn)
    rw [hk] at hfirst
    exact ⟨y.2.declaration, hsig ▸ hfirst, hc⟩
  · intro i d sig hf
    obtain ⟨y, hy, rfl, hd, _⟩ := h.mem_of_firstSigned hn hf
    refine List.mem_map_of_mem ((hmem y).mpr (mem_keptOf.mpr ⟨hy, ?_⟩))
    rw [hd, hf.ofKind]

/-- Bindings made from what is kept of a kind, in its order, stand for it. -/
theorem Kept.standsFor_ofKind {α γ : Type} {signature : α → String}
    {carries : α → Declaration → Prop} {xs : List α} {face : α → γ}
    {mk : ResolvedDeclaration → γ} (h : Kept [] ds kept) (hn : kind.isNamed = true)
    (hfaces : xs.map face = (ofKind kind (kept.map (·.2))).map mk)
    (hcarries : ∀ x ∈ xs, ∀ y ∈ kept, face x = mk y.2 →
      signature x = y.2.signature ∧ carries x y.2.declaration) :
    ∃ places, StandsFor ds kind signature carries xs places ∧ places.Pairwise (· < ·) := by
  have hordered : ((keptOf kind kept).map (·.1)).Pairwise (· < ·) :=
    List.pairwise_map.mpr (h.keptOf_ordered kind)
  rw [ofKind_kept] at hfaces
  refine ⟨_, h.standsFor hn (fun _ => Iff.rfl) (hordered.imp Nat.ne_of_lt) hfaces ?_, hordered⟩
  intro x hx y hy hface
  exact hcarries x hx y (mem_keptOf.mp hy).1 hface

end Kinds

def firstNamed (ds : List Declaration) (name : String) : Nat :=
  ds.findIdx fun d => d.kind = .function ∧ d.nameOrKind = name

section Order

variable {ds : List Declaration} {kept : List (Nat × ResolvedDeclaration)}
variable {x : Nat × ResolvedDeclaration}

theorem firstNamed_le {i : Nat} {d : Declaration} (hd : ds[i]? = some d) (hk : d.kind = .function) :
    firstNamed ds d.nameOrKind ≤ i := by
  by_contra hlt
  obtain ⟨hi, rfl⟩ := List.getElem?_eq_some_iff.mp hd
  have hnot := List.not_of_lt_findIdx (Nat.lt_of_not_le hlt)
  simp [hk] at hnot

/-- Where functions of a name come up first one of them stands. -/
theorem getElem?_firstNamed {d : Declaration} (hd : d ∈ ds) (hk : d.kind = .function) :
    ∃ c, ds[firstNamed ds d.nameOrKind]? = some c ∧ c.kind = .function ∧
      c.nameOrKind = d.nameOrKind := by
  have hlt : firstNamed ds d.nameOrKind < ds.length :=
    List.findIdx_lt_length.mpr ⟨d, hd, by simp [hk]⟩
  exact ⟨_, List.getElem?_eq_getElem hlt, of_decide_eq_true (List.findIdx_getElem (w := hlt))⟩

/-- The first function of a name comes first with its signature, since no other name has that. -/
theorem Kept.exists_firstNamed (h : Kept [] ds kept) {d : Declaration} (hd : d ∈ ds)
    (hk : d.kind = .function) : ∃ x ∈ keptOf .function kept,
      x.1 = firstNamed ds d.nameOrKind ∧ x.2.declaration.nameOrKind = d.nameOrKind := by
  obtain ⟨c, hc, hck, hcn⟩ := getElem?_firstNamed hd hk
  obtain ⟨sig, hsig⟩ := h.declared hc
  have hfirst : FirstSigned ds .function (firstNamed ds d.nameOrKind) c sig := by
    refine ⟨hc, hsig, hck, ?_⟩
    intro i hi d' hd' hk' hsig'
    have hle := firstNamed_le hd' hk'
    rw [hsig'.name_unique hsig, hcn] at hle
    omega
  obtain ⟨x, hx, hplace, hdecl, _⟩ := h.mem_of_firstSigned rfl hfirst
  exact ⟨x, mem_keptOf.mpr ⟨hx, hdecl ▸ hck⟩, hplace, hdecl ▸ hcn⟩

/-- Of two names, the one that came up first among what is kept came up first of all. -/
theorem Kept.firstNamed_lt (h : Kept [] ds kept) {name : String} {before after : List String}
    (hnames : (keptOf .function kept).map (fun x => x.2.declaration.nameOrKind) =
      before ++ name :: after) (hx : x ∈ keptOf .function kept)
    (hne : name ≠ x.2.declaration.nameOrKind) (hlater : x.2.declaration.nameOrKind ∉ before) :
    firstNamed ds name < firstNamed ds x.2.declaration.nameOrKind := by
  obtain ⟨before, rest, hkept, rfl, hrest⟩ := List.map_eq_append_iff.mp hnames
  obtain ⟨w, after, rfl, rfl, _⟩ := List.map_eq_cons_iff.mp hrest
  obtain ⟨hx, hxk⟩ := mem_keptOf.mp hx
  obtain ⟨z, hz, hplace, hzname⟩ :=
    h.exists_firstNamed (List.mem_of_getElem? (h.here x hx).1) hxk
  have hafter : z ∈ after := by
    rw [hkept] at hz
    rcases List.mem_append.mp hz with hz | hz
    · exact absurd (hzname ▸ List.mem_map_of_mem hz) hlater
    · rcases List.mem_cons.mp hz with rfl | hz
      · exact absurd hzname hne
      · exact hz
  have hlt : w.1 < z.1 := by
    have hordered := h.keptOf_ordered .function
    rw [hkept, List.pairwise_append] at hordered
    exact (List.pairwise_cons.mp hordered.2.1).1 z hafter
  have hw : w ∈ keptOf .function kept := by
    rw [hkept]
    exact List.mem_append_right _ List.mem_cons_self
  obtain ⟨hw, hwk⟩ := mem_keptOf.mp hw
  have hle := firstNamed_le (h.here w hw).1 hwk
  omega

/-- Functions stand grouped by name in order of first appearance, and in declaration order within a
group. -/
theorem Kept.functionsByName_ordered (h : Kept [] ds kept) :
    (functionsByName kept).Pairwise fun x y =>
      firstNamed ds x.2.declaration.nameOrKind < firstNamed ds y.2.declaration.nameOrKind ∨
        x.2.declaration.nameOrKind = y.2.declaration.nameOrKind ∧ x.1 < y.1 := by
  refine List.pairwise_flatMap.mpr ⟨?_, ?_⟩
  · intro name _
    refine ((h.keptOf_ordered .function).sublist List.filter_sublist).imp_of_mem ?_
    intro x y hx hy hlt
    simp only [List.mem_filter, decide_eq_true_eq] at hx hy
    exact .inr ⟨hx.2.trans hy.2.symm, hlt⟩
  · refine (eraseDups_order _).imp ?_
    rintro a b ⟨hne, before, after, hnames, hlater⟩ x hx y hy
    simp only [List.mem_filter, decide_eq_true_eq] at hx hy
    obtain ⟨hy, rfl⟩ := hy
    rw [hx.2]
    exact .inl (h.firstNamed_lt hnames hy hne hlater)

theorem Kept.functionsByName_once (h : Kept [] ds kept) :
    ((functionsByName kept).map (·.1)).Nodup := by
  refine List.pairwise_map.mpr (h.functionsByName_ordered.imp_of_mem ?_)
  intro x y hx hy hlt he
  have hplace := (h.here x (mem_keptOf.mp (mem_functionsByName.mp hx)).1).1
  have hplace' := (h.here y (mem_keptOf.mp (mem_functionsByName.mp hy)).1).1
  rw [he, hplace'] at hplace
  obtain hd := Option.some.inj hplace
  rw [hd, he] at hlt
  omega

/-- An overload is kept just when some declaration has its name and its signature. -/
theorem Kept.overload_iff (h : Kept [] ds kept) (name sig : String) :
    (∃ x ∈ keptOf .function kept, x.2.declaration.nameOrKind = name ∧ x.2.signature = sig) ↔
      ∃ d ∈ ds, d.kind = .function ∧ d.nameOrKind = name ∧ d.Signed sig := by
  constructor
  · rintro ⟨x, hx, rfl, rfl⟩
    obtain ⟨hx, hk⟩ := mem_keptOf.mp hx
    obtain ⟨hplace, hsig⟩ := h.here x hx
    exact ⟨_, List.mem_of_getElem? hplace, hk, rfl, hsig⟩
  · rintro ⟨d, hd, hk, rfl, hsig⟩
    obtain ⟨i, hi⟩ := List.mem_iff_getElem?.mp hd
    obtain ⟨sig', hsig', hc⟩ := h.covers i d hi
    obtain rfl := hsig'.unique hsig
    rcases hc with hseen | ⟨x, hx, _, he⟩
    · cases hseen
    · have hn : d.kind.isNamed = true := by rw [hk]; rfl
      obtain ⟨hkind, hs⟩ := (Declaration.identity_eq_iff hn).mp he.symm
      have hxs := (h.here x hx).2
      rw [← hs] at hxs
      exact ⟨x, mem_keptOf.mpr ⟨hx, hkind.trans hk⟩, hxs.name_unique hsig, hs.symm⟩

end Order

theorem FunctionBinding.methodNames_ne_nil {f : FunctionBinding} {r : ResolvedDeclaration}
    {both : Bool} (h : f.ways = r.ways both) : f.methodNames ≠ [] := by
  intro he
  obtain ⟨hc, ht⟩ := List.append_eq_nil_iff.mp he
  rw [Option.toList_eq_nil_iff] at hc ht
  simp only [ways, hc, ht, ResolvedDeclaration.ways, Option.isSome_none, Prod.mk.injEq] at h
  cases hr : r.declaration.mutability.isReadOnly <;> simp [hr] at h

namespace ContractBindings.Compiled

variable {b : ContractBindings} {options : Options} {ds : List Declaration}
variable {bytecode : Option String} {kept : List (Nat × ResolvedDeclaration)} {g : Gathered}

/-- Functions have the names and signatures of what is kept, in the order of their names. -/
theorem function_labels
    (h : b.Compiled options.representation ds bytecode (kept.map (·.2)) g) :
    (b.functions.map fun f => (f.abiName, f.signature)) =
      (functionsByName kept).map fun x => (x.2.declaration.nameOrKind, x.2.signature) := by
  have hfaces := h.function_faces
  rw [overloads_kept, List.map_map] at hfaces
  have hlabels := map_of_map hfaces fun f => (f.abiName, f.signature)
  rw [List.map_map] at hlabels
  exact hlabels

/-- Functions are bound by name, and stand for the declarations kept in that order. -/
theorem functions_standFor
    (h : b.Compiled options.representation ds bytecode (kept.map (·.2)) g) (hk : Kept [] ds kept)
    (hways : b.functions.map (·.ways) =
      ((overloads (kept.map (·.2))).flatMap (·.2)).map (·.ways options.callAndSend)) :
    StandsFor ds .function (·.signature)
      (fun f d => f.Carries options (structKeys b.structs) d) b.functions
      ((functionsByName kept).map (·.1)) := by
  have hfaces : (b.functions.map fun f => (f.face, f.ways)) =
      ((functionsByName kept).map (·.2)).map
        fun r => (functionFace r, r.ways options.callAndSend) := by
    rw [← overloads_kept]
    exact map_pair h.function_faces hways
  refine hk.standsFor rfl (fun _ => mem_functionsByName) hk.functionsByName_once hfaces ?_
  intro f _ x hx hface
  obtain ⟨hface, hfw⟩ := Prod.mk.inj hface
  obtain ⟨hx, hkind⟩ := mem_keptOf.mp (mem_functionsByName.mp hx)
  have hs := h.sound x.2 (List.mem_map_of_mem hx)
  exact ⟨congrArg (·.signature) hface, FunctionBinding.carries_of_face hs hkind hface hfw⟩

/-- Each function stands behind the functions of names that came up earlier, and behind the earlier
functions of its own name. -/
theorem functions_ordered
    (h : b.Compiled options.representation ds bytecode (kept.map (·.2)) g) (hk : Kept [] ds kept) :
    (b.functions.zip ((functionsByName kept).map (·.1))).Pairwise fun x y =>
      firstNamed ds x.1.abiName < firstNamed ds y.1.abiName ∨
        x.1.abiName = y.1.abiName ∧ x.2 < y.2 := by
  have hnames : b.functions.map (·.abiName) =
      (functionsByName kept).map fun x => x.2.declaration.nameOrKind := by
    have hfirst := congrArg (List.map (·.1)) h.function_labels
    rwa [List.map_map, List.map_map] at hfirst
  have hzip : ((b.functions.zip ((functionsByName kept).map (·.1))).map
      fun x => (x.1.abiName, x.2)) =
        (functionsByName kept).map fun x => (x.2.declaration.nameOrKind, x.1) := by
    calc
      _ = (b.functions.map (·.abiName)).zip ((functionsByName kept).map (·.1)) :=
          List.zip_map_left.symm
      _ = _ := by rw [hnames, List.zip_map']
  have hordered : ((functionsByName kept).map fun x => (x.2.declaration.nameOrKind, x.1)).Pairwise
      fun x y => firstNamed ds x.1 < firstNamed ds y.1 ∨ x.1 = y.1 ∧ x.2 < y.2 :=
    List.pairwise_map.mpr hk.functionsByName_ordered
  rw [← hzip] at hordered
  exact List.pairwise_map.mp hordered

/-- Every overload declared has its function. -/
theorem overload_iff
    (h : b.Compiled options.representation ds bytecode (kept.map (·.2)) g) (hk : Kept [] ds kept)
    (name sig : String) : (∃ f ∈ b.functions, f.abiName = name ∧ f.signature = sig) ↔
      ∃ d ∈ ds, d.kind = .function ∧ d.nameOrKind = name ∧ d.Signed sig := by
  rw [← hk.overload_iff]
  have hlabel : (name, sig) ∈ (b.functions.map fun f => (f.abiName, f.signature)) ↔
      (name, sig) ∈ (functionsByName kept).map
        fun x => (x.2.declaration.nameOrKind, x.2.signature) := by
    rw [h.function_labels]
  simpa only [List.mem_map, Prod.mk.injEq, mem_functionsByName] using hlabel

/-- No two functions that are bound have one signature. -/
theorem signatures_nodup
    (h : b.Compiled options.representation ds bytecode (kept.map (·.2)) g)
    (hk : Kept [] ds kept) : (b.functions.map (·.signature)).Nodup := by
  have hsignatures : b.functions.map (·.signature) =
      (functionsByName kept).map fun x => x.2.signature := by
    have hsecond := congrArg (List.map (·.2)) h.function_labels
    rwa [List.map_map, List.map_map] at hsecond
  rw [hsignatures]
  refine List.Nodup.map_on ?_ (List.Nodup.of_map _ hk.functionsByName_once)
  intro x hx y hy he
  obtain ⟨hx, hxk⟩ := mem_keptOf.mp (mem_functionsByName.mp hx)
  obtain ⟨hy, hyk⟩ := mem_keptOf.mp (mem_functionsByName.mp hy)
  have hn : x.2.declaration.kind.isNamed = true := by rw [hxk]; rfl
  exact hk.eq_of_identity hx hy
    ((Declaration.identity_eq_iff hn).mpr ⟨hyk.trans hxk.symm, he⟩)

end ContractBindings.Compiled

/-- Every declaration that comes first of its kind with its signature has its binding, and no other
has one. Functions stand by name in order of first appearance, overloads in declaration order, events
and errors in declaration order. Overloads with different signatures have different methods. -/
theorem bindings_complete {options : Options} {contractName : String} {modulePath : ModulePath}
    {ds : List Declaration} {bytecode : Option String} {b : ContractBindings}
    (h : (compileDeclarations options contractName modulePath ds bytecode).result = .ok b) :
    (∃ places, StandsFor ds .function (·.signature)
        (fun f d => f.Carries options (structKeys b.structs) d) b.functions places ∧
      (b.functions.zip places).Pairwise fun x y =>
        firstNamed ds x.1.abiName < firstNamed ds y.1.abiName ∨
          x.1.abiName = y.1.abiName ∧ x.2 < y.2) ∧
    (∃ places, StandsFor ds .event (·.signature)
        (fun e d => e.Carries options.representation (structKeys b.structs) d) b.events places ∧
      places.Pairwise (· < ·)) ∧
    (∃ places, StandsFor ds .error (·.signature)
        (fun e d => e.Carries options.representation (structKeys b.structs) d) b.errors places ∧
      places.Pairwise (· < ·)) ∧
    (∀ name sig, (∃ f ∈ b.functions, f.abiName = name ∧ f.signature = sig) ↔
      ∃ d ∈ ds, d.kind = .function ∧ d.nameOrKind = name ∧ d.Signed sig) ∧
    (b.functions.map (·.signature)).Nodup ∧
    (∀ f ∈ b.functions, f.methodNames ≠ []) ∧ (b.functions.flatMap (·.methodNames)).Nodup := by
  obtain ⟨rs, g, hc, hways⟩ := compileDeclarations_ways h
  obtain ⟨kept, rfl, hk⟩ := hc.kept
  refine ⟨⟨_, hc.functions_standFor hk hways, hc.functions_ordered hk⟩, ?_, ?_,
    hc.overload_iff hk, hc.signatures_nodup hk, ?_, (List.nodup_append.mp hc.nodup_methodNames.1).1⟩
  · refine hk.standsFor_ofKind rfl hc.built.events ?_
    intro e _ x hx hface
    exact ⟨congrArg (·.signature) hface,
      EventBinding.carries_of_face (hc.sound x.2 (List.mem_map_of_mem hx)) hface⟩
  · refine hk.standsFor_ofKind rfl hc.built.errors ?_
    intro e _ x hx hface
    exact ⟨congrArg (·.signature) hface,
      ErrorBinding.carries_of_face (hc.sound x.2 (List.mem_map_of_mem hx)) hface⟩
  · intro f hf
    have hm : f.ways ∈ b.functions.map (·.ways) := List.mem_map_of_mem hf
    rw [hways] at hm
    obtain ⟨r, _, hr⟩ := List.mem_map.mp hm
    exact FunctionBinding.methodNames_ne_nil hr.symm

section Vault

/-- An overload comes after another function, and a function and an event are declared again. -/
def vault : List Declaration :=
  let account : Parameter := { name := "account", typeText := "address" }
  let amount : Parameter := { name := "amount", typeText := "uint256" }
  [{ kind := .function, name := some "deposit", inputs := [account], mutability := .payable },
    { kind := .function, name := some "balance", inputs := [account], outputs := [amount]
      mutability := .view },
    { kind := .event, name := some "Deposited", inputs := [account] },
    { kind := .function, name := some "deposit", inputs := [account, amount] },
    { kind := .function, name := some "balance", inputs := [account] },
    { kind := .event, name := some "Deposited", inputs := [{ account with indexed := true }] }]

def vaultBindings : Except Failure ContractBindings :=
  (compileDeclarations {} "Vault" ⟨["market"]⟩ vault none).result

theorem vaultBindings_ok : ∃ b, vaultBindings = .ok b ∧
    (b.functions.map (·.signature), b.events.map (·.signature)) =
      (["deposit(address)", "deposit(address,uint256)", "balance(address)"],
        ["Deposited(address)"]) :=
  ok_of_view (by decide +kernel)

/-- Three functions and one event are left, overloads side by side. -/
theorem bindings_complete_vault : ∃ b, vaultBindings = .ok b ∧
    b.functions.map (·.signature) =
      ["deposit(address)", "deposit(address,uint256)", "balance(address)"] ∧
    (∃ places, StandsFor vault .function (·.signature)
      (fun f d => f.Carries {} (structKeys b.structs) d) b.functions places ∧ places.length = 3) ∧
    ∃ places, StandsFor vault .event (·.signature)
      (fun e d => e.Carries .precise (structKeys b.structs) d) b.events places ∧
      places.length = 1 := by
  obtain ⟨b, hb, hview⟩ := vaultBindings_ok
  have hfunctions := congrArg (·.1) hview
  have hevents := congrArg (·.2) hview
  obtain ⟨⟨places, hplaces, _⟩, ⟨logs, hlogs, _⟩, _⟩ := bindings_complete hb
  refine ⟨b, hb, hfunctions, ⟨places, hplaces, ?_⟩, logs, hlogs, ?_⟩
  · rw [← hplaces.each.length_eq]
    simpa using congrArg List.length hfunctions
  · rw [← hlogs.each.length_eq]
    simpa using congrArg List.length hevents

end Vault

end AbiBindings
