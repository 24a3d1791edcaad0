import AbiBindings.Proofs.Compilation

namespace AbiBindings

def Declaration.Signed (d : Declaration) (sig : String) : Prop :=
  signature d.nameOrKind d.inputs d.describe = .ok sig

theorem Declaration.Signed.unique {d : Declaration} {sig sig' : String} (h : d.Signed sig)
    (h' : d.Signed sig') : sig = sig' :=
  Except.ok.inj (h.symm.trans h')

/-- A declaration at its place, the first of its kind to have its signature. -/
structure FirstSigned (ds : List Declaration) (kind : Kind) (place : Nat) (d : Declaration)
    (sig : String) : Prop where
  here : ds[place]? = some d
  signed : d.Signed sig
  ofKind : d.kind = kind
  first : ∀ i < place, ∀ d', ds[i]? = some d' → d'.kind = kind → ¬ d'.Signed sig

def ResolvedDeclaration.identity (r : ResolvedDeclaration) : Kind × String :=
  r.declaration.identity r.signature

/-- Of a kind with names, declarations are told apart by their signatures. -/
theorem Declaration.identity_eq_iff {d d' : Declaration} {sig sig' : String}
    (hk : d.kind.isNamed = true) :
    d.identity sig = d'.identity sig' ↔ d'.kind = d.kind ∧ sig = sig' := by
  simp only [identity, hk, ↓reduceIte, Prod.mk.injEq]
  constructor
  · rintro ⟨he, hs⟩
    rw [← he, hk, if_pos rfl] at hs
    exact ⟨he.symm, hs⟩
  · rintro ⟨he, rfl⟩
    rw [he, hk, if_pos rfl]
    exact ⟨rfl, rfl⟩

/-- Declarations kept, each with its place among all. Each was new when it was come to, and one that
is not kept repeats what was seen before or a declaration kept earlier. -/
structure Kept (seen : List (Kind × String)) (ds : List Declaration)
    (kept : List (Nat × ResolvedDeclaration)) : Prop where
  here : ∀ x ∈ kept, ds[x.1]? = some x.2.declaration ∧ x.2.declaration.Signed x.2.signature
  ordered : kept.Pairwise fun x y => x.1 < y.1 ∧ x.2.identity ≠ y.2.identity
  unseen : ∀ x ∈ kept, x.2.identity ∉ seen
  covers : ∀ (i : Nat) d, ds[i]? = some d → ∃ sig, d.Signed sig ∧
    (d.identity sig ∈ seen ∨ ∃ x ∈ kept, x.1 ≤ i ∧ x.2.identity = d.identity sig)

namespace Kept

variable {seen : List (Kind × String)} {d : Declaration} {ds : List Declaration} {sig : String}
variable {kept : List (Nat × ResolvedDeclaration)} {x : Nat × ResolvedDeclaration}

/-- A declaration before the others moves their places by one. -/
def shift (x : Nat × ResolvedDeclaration) : Nat × ResolvedDeclaration := (x.1 + 1, x.2)

theorem nil (seen : List (Kind × String)) : Kept seen [] [] :=
  ⟨by simp, .nil, by simp, by simp⟩

theorem ordered_shift (h : Kept seen ds kept) :
    (kept.map shift).Pairwise fun x y => x.1 < y.1 ∧ x.2.identity ≠ y.2.identity := by
  rw [List.pairwise_map]
  exact h.ordered.imp fun ⟨hlt, hne⟩ => ⟨Nat.succ_lt_succ hlt, hne⟩

theorem here_shift (h : Kept seen ds kept) (d : Declaration) :
    ∀ x ∈ kept.map shift,
      (d :: ds)[x.1]? = some x.2.declaration ∧ x.2.declaration.Signed x.2.signature := by
  intro x hx
  obtain ⟨y, hy, rfl⟩ := List.mem_map.mp hx
  obtain ⟨hplace, hsig⟩ := h.here y hy
  exact ⟨by rw [shift, List.getElem?_cons_succ, hplace], hsig⟩

theorem covered_shift {i : Nat} {key : Kind × String}
    (h : ∃ x ∈ kept, x.1 ≤ i ∧ x.2.identity = key) :
    ∃ x ∈ kept.map shift, x.1 ≤ i + 1 ∧ x.2.identity = key := by
  obtain ⟨x, hx, hle, he⟩ := h
  exact ⟨shift x, List.mem_map_of_mem hx, Nat.succ_le_succ hle, he⟩

theorem repeated (h : Kept seen ds kept) (hsig : d.Signed sig) (hseen : d.identity sig ∈ seen) :
    Kept seen (d :: ds) (kept.map shift) := by
  refine ⟨h.here_shift d, h.ordered_shift, ?_, ?_⟩
  · intro x hx
    obtain ⟨y, hy, rfl⟩ := List.mem_map.mp hx
    exact h.unseen y hy
  · intro i d' hd'
    cases i with
    | zero =>
      cases hd'
      exact ⟨sig, hsig, .inl hseen⟩
    | succ i =>
      obtain ⟨sig', hsig', hc⟩ := h.covers i d' hd'
      exact ⟨sig', hsig', hc.imp id covered_shift⟩

/-- A declaration that repeats nothing is kept, at the first place. -/
theorem new {r : ResolvedDeclaration} (h : Kept (r.identity :: seen) ds kept)
    (hsig : r.declaration.Signed r.signature) (hnew : r.identity ∉ seen) :
    Kept seen (r.declaration :: ds) ((0, r) :: kept.map shift) := by
  refine ⟨?_, ?_, ?_, ?_⟩
  · intro x hx
    rcases List.mem_cons.mp hx with rfl | hx
    · exact ⟨rfl, hsig⟩
    · exact h.here_shift _ x hx
  · refine List.pairwise_cons.mpr ⟨?_, h.ordered_shift⟩
    intro x hx
    obtain ⟨y, hy, rfl⟩ := List.mem_map.mp hx
    have hy' := h.unseen y hy
    rw [List.mem_cons, not_or] at hy'
    exact ⟨Nat.succ_pos _, Ne.symm hy'.1⟩
  · intro x hx
    rcases List.mem_cons.mp hx with rfl | hx
    · exact hnew
    · obtain ⟨y, hy, rfl⟩ := List.mem_map.mp hx
      have hy' := h.unseen y hy
      rw [List.mem_cons, not_or] at hy'
      exact hy'.2
  · intro i d' hd'
    have hfirst : ∃ x ∈ (0, r) :: kept.map shift, x.1 ≤ i ∧ x.2.identity = r.identity :=
      ⟨(0, r), List.mem_cons_self, Nat.zero_le i, rfl⟩
    cases i with
    | zero =>
      cases hd'
      exact ⟨r.signature, hsig, .inr hfirst⟩
    | succ i =>
      obtain ⟨sig', hsig', hc⟩ := h.covers i d' hd'
      refine ⟨sig', hsig', ?_⟩
      rcases hc with hseen | hc
      · rcases List.mem_cons.mp hseen with he | hseen
        · exact .inr (he ▸ hfirst)
        · exact .inl hseen
      · obtain ⟨x, hx, hle, he⟩ := covered_shift hc
        exact .inr ⟨x, List.mem_cons_of_mem _ hx, hle, he⟩

theorem declared (h : Kept seen ds kept) {i : Nat} (hd : ds[i]? = some d) :
    ∃ sig, d.Signed sig := by
  obtain ⟨sig, hsig, _⟩ := h.covers i d hd
  exact ⟨sig, hsig⟩

/-- Two declarations kept that cannot be told apart are one. -/
theorem eq_of_identity (h : Kept seen ds kept) {y : Nat × ResolvedDeclaration} (hx : x ∈ kept)
    (hy : y ∈ kept) (he : x.2.identity = y.2.identity) : x = y := by
  have hn : (kept.map fun x => x.2.identity).Nodup :=
    List.pairwise_map.mpr (h.ordered.imp And.right)
  exact List.inj_on_of_nodup_map hn hx hy he

/-- What is kept of a kind with names comes first with its signature. -/
theorem firstSigned (h : Kept [] ds kept) (hx : x ∈ kept)
    (hk : x.2.declaration.kind.isNamed = true) :
    FirstSigned ds x.2.declaration.kind x.1 x.2.declaration x.2.signature := by
  obtain ⟨hplace, hsig⟩ := h.here x hx
  refine ⟨hplace, hsig, rfl, ?_⟩
  intro i hi d' hd' hkind hsig'
  obtain ⟨sig, hs, hc⟩ := h.covers i d' hd'
  obtain rfl := hs.unique hsig'
  have he : x.2.identity = d'.identity x.2.signature :=
    (Declaration.identity_eq_iff hk).mpr ⟨hkind, rfl⟩
  rcases hc with hseen | ⟨y, hy, hle, hyd⟩
  · cases hseen
  · obtain rfl := h.eq_of_identity hx hy (he.trans hyd.symm)
    omega

/-- What comes first with its signature is kept. -/
theorem mem_of_firstSigned (h : Kept [] ds kept) {kind : Kind} (hk : kind.isNamed = true) {i : Nat}
    (hf : FirstSigned ds kind i d sig) :
    ∃ x ∈ kept, x.1 = i ∧ x.2.declaration = d ∧ x.2.signature = sig := by
  obtain ⟨sig', hs, hc⟩ := h.covers i d hf.here
  obtain rfl := hs.unique hf.signed
  rcases hc with hseen | ⟨x, hx, hle, he⟩
  · cases hseen
  · obtain ⟨hplace, hsig⟩ := h.here x hx
    have hdk : d.kind.isNamed = true := hf.ofKind ▸ hk
    obtain ⟨hkind, rfl⟩ := (Declaration.identity_eq_iff hdk).mp he.symm
    have hi : x.1 = i := by
      rcases Nat.lt_or_eq_of_le hle with hlt | heq
      · exact absurd hsig (hf.first x.1 hlt _ hplace (hkind.trans hf.ofKind))
      · exact heq
    rw [hi, hf.here] at hplace
    exact ⟨x, hx, hi, (Option.some.inj hplace).symm, rfl⟩

end Kept

/-- Resolving declarations keeps the first of every signature, at its place. -/
theorem resolveDeclarations_kept {mode : Representation} {seen : List (Kind × String)}
    {g g' : Gathered} {ds : List Declaration} {rs : List ResolvedDeclaration}
    (h : (resolveDeclarations mode seen g ds).2 = .ok (rs, g')) :
    ∃ kept, kept.map (·.2) = rs ∧ Kept seen ds kept := by
  induction ds generalizing seen g rs with
  | nil =>
    cases h
    exact ⟨[], rfl, .nil seen⟩
  | cons d ds ih =>
    obtain ⟨sig, hsig, ⟨hseen, hrest⟩ | ⟨hnew, r, g₁, rest, hr, hrest, rfl⟩⟩ :=
      resolveDeclarations_cons h
    · obtain ⟨kept, rfl, hk⟩ := ih hrest
      refine ⟨kept.map Kept.shift, ?_, hk.repeated hsig hseen⟩
      rw [List.map_map]
      rfl
    · obtain ⟨_, _, _, _, _, he⟩ := Declaration.resolve_ok hr
      have hd : d = r.declaration := by rw [he]
      have hs : sig = r.signature := by rw [he]
      subst hd hs
      obtain ⟨kept, rfl, hk⟩ := ih hrest
      refine ⟨(0, r) :: kept.map Kept.shift, ?_, hk.new hsig hnew⟩
      rw [List.map_cons, List.map_map]
      rfl

/-- What is resolved was declared. -/
theorem resolveDeclarations_mem {mode : Representation} {seen : List (Kind × String)}
    {g g' : Gathered} {ds : List Declaration} {rs : List ResolvedDeclaration}
    (h : (resolveDeclarations mode seen g ds).2 = .ok (rs, g')) {r : ResolvedDeclaration}
    (hr : r ∈ rs) : r.declaration ∈ ds := by
  obtain ⟨kept, rfl, hk⟩ := resolveDeclarations_kept h
  obtain ⟨x, hx, rfl⟩ := List.mem_map.mp hr
  exact List.mem_of_getElem? (hk.here x hx).1

namespace ContractBindings.Compiled

variable {b : ContractBindings} {mode : Representation} {ds : List Declaration}
variable {bytecode : Option String} {rs : List ResolvedDeclaration} {g : Gathered}

theorem kept (h : b.Compiled mode ds bytecode rs g) :
    ∃ kept, kept.map (·.2) = rs ∧ Kept [] ds kept :=
  resolveDeclarations_kept h.resolved

/-- What bindings are made from comes first with its signature. -/
theorem firstSigned (h : b.Compiled mode ds bytecode rs g) {r : ResolvedDeclaration} {kind : Kind}
    (hr : r ∈ rs) (hk : r.declaration.kind = kind) (hn : kind.isNamed = true) :
    ∃ place, FirstSigned ds kind place r.declaration r.signature := by
  obtain ⟨kept, rfl, hkept⟩ := h.kept
  obtain ⟨x, hx, rfl⟩ := List.mem_map.mp hr
  subst hk
  exact ⟨x.1, hkept.firstSigned hx hn⟩

end ContractBindings.Compiled

end AbiBindings
