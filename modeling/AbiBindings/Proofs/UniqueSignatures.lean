import AbiBindings.Proofs.KeptDeclarations
import AbiBindings.Proofs.SignatureNames
import AbiBindings.Proofs.Validity

namespace AbiBindings

mutual

/-- Types are alike when their dimensions are the same, over one elementary type or over tuples of
alike parts. How a type is spelled and what its parts are called does not matter. -/
inductive AlikeType : Parameter → Parameter → Prop
  | elementary {p p' : Parameter} {e : Elementary} {dims : List (Option Nat)}
    (h : TypeExpr.parse p.typeText = .ok ⟨.elementary e, dims⟩)
    (h' : TypeExpr.parse p'.typeText = .ok ⟨.elementary e, dims⟩) : AlikeType p p'
  | tuple {p p' : Parameter} {dims : List (Option Nat)}
    (h : TypeExpr.parse p.typeText = .ok ⟨.tuple, dims⟩)
    (h' : TypeExpr.parse p'.typeText = .ok ⟨.tuple, dims⟩)
    (hs : AlikeTypes p.components p'.components) : AlikeType p p'

/-- As many parameters, with alike types in order. -/
inductive AlikeTypes : List Parameter → List Parameter → Prop
  | nil : AlikeTypes [] []
  | cons {p p' : Parameter} {ps ps' : List Parameter} (h : AlikeType p p')
    (hs : AlikeTypes ps ps') : AlikeTypes (p :: ps) (p' :: ps')

end

/-- Balanced text in which every comma stands between parentheses. -/
structure Item (text : List Char) : Prop where
  balanced : Balanced text
  commas : ∀ start rest, text = start ++ ',' :: rest → start.count ')' < start.count '('

namespace Item

variable {text text' : List Char}

theorem plain (ho : '(' ∉ text) (hc : ')' ∉ text) (hs : ',' ∉ text) : Item text := by
  refine ⟨.plain ho hc, ?_⟩
  rintro start rest rfl
  exact absurd (List.mem_append_right _ List.mem_cons_self) hs

theorem append (h : Item text) (h' : Item text') : Item (text ++ text') := by
  refine ⟨h.balanced.append h'.balanced, ?_⟩
  intro start rest he
  rcases List.append_eq_append_iff.mp he with ⟨part, rfl, hp⟩ | ⟨part, hp, hrest⟩
  · have hpart := h'.commas part rest hp
    rw [List.count_append, List.count_append, h.balanced.even]
    omega
  · cases part with
    | nil =>
      rw [List.append_nil] at hp
      have hnil := h'.commas [] rest hrest.symm
      simp at hnil
    | cons c part =>
      rw [List.cons_append, List.cons.injEq] at hrest
      obtain ⟨rfl, _⟩ := hrest
      exact h.commas start part hp

/-- Between parentheses there may be any commas. -/
theorem enclosed (h : Balanced text) : Item ('(' :: (text ++ [')'])) := by
  refine ⟨h.enclosed, ?_⟩
  intro start rest he
  cases start with
  | nil => simp at he
  | cons c start =>
    obtain ⟨rfl, hstart⟩ := List.cons.inj he
    have hprefix : start <+: text := by
      rcases List.prefix_concat_iff.mp ⟨_, hstart.symm⟩ with rfl | hprefix
      · simp at hstart
      · exact hprefix
    have hle := h.opened start hprefix
    simp only [List.count_cons, beq_self_eq_true, ↓reduceIte, Char.reduceBEq, Bool.false_eq_true]
    omega

/-- Where a list goes on after its first item. -/
def IsRest (rest : List Char) : Prop := rest = [] ∨ ∃ more, rest = ',' :: more

/-- A joined list goes on after its first item with a comma, or it ends. -/
theorem intercalate_cons (text : List Char) (texts : List (List Char)) :
    ∃ rest, [','].intercalate (text :: texts) = text ++ rest ∧ IsRest rest ∧
      ((texts = [] ∧ rest = []) ∨ (texts ≠ [] ∧ rest = ',' :: [','].intercalate texts)) := by
  cases texts with
  | nil => exact ⟨[], by simp, .inl rfl, .inl ⟨rfl, rfl⟩⟩
  | cons text' texts =>
    refine ⟨_, ?_, .inr ⟨_, rfl⟩, .inr ⟨by simp, rfl⟩⟩
    rw [List.intercalate_cons_cons, List.append_assoc]
    rfl

theorem eq_nil_of_extends {extra rest : List Char} (h : Balanced text)
    (h' : Item (text ++ extra)) (hr : IsRest (extra ++ rest)) : extra = [] := by
  cases extra with
  | nil => rfl
  | cons c extra =>
    rcases hr with hr | ⟨more, hr⟩
    · cases hr
    · obtain ⟨rfl, _⟩ := List.cons.inj hr
      have hlt := h'.commas text extra rfl
      rw [h.even] at hlt
      omega

/-- The first item of a list ends at one place only. -/
theorem first_unique (h : Item text) (h' : Item text') {rest rest' : List Char} (hr : IsRest rest)
    (hr' : IsRest rest') (he : text ++ rest = text' ++ rest') : text = text' ∧ rest = rest' := by
  rcases List.append_eq_append_iff.mp he with ⟨extra, rfl, rfl⟩ | ⟨extra, rfl, rfl⟩
  · have hnil := eq_nil_of_extends h.balanced h' hr
    simp [hnil]
  · have hnil := eq_nil_of_extends h'.balanced h hr'
    simp [hnil]

/-- A list of items can be read in one way only. -/
theorem list_unique {texts texts' : List (List Char)} (h : ∀ t ∈ texts, Item t ∧ t ≠ [])
    (h' : ∀ t ∈ texts', Item t ∧ t ≠ [])
    (he : [','].intercalate texts = [','].intercalate texts') : texts = texts' := by
  induction texts generalizing texts' with
  | nil =>
    cases texts' with
    | nil => rfl
    | cons t' texts' =>
      obtain ⟨rest', hrest', _⟩ := intercalate_cons t' texts'
      rw [hrest'] at he
      exact absurd (List.append_eq_nil_iff.mp he.symm).1 (h' t' List.mem_cons_self).2
  | cons t texts ih =>
    obtain ⟨rest, hrest, hr, hcase⟩ := intercalate_cons t texts
    obtain ⟨ht, hts⟩ := List.forall_mem_cons.mp h
    cases texts' with
    | nil =>
      rw [hrest] at he
      exact absurd (List.append_eq_nil_iff.mp he).1 ht.2
    | cons t' texts' =>
      obtain ⟨rest', hrest', hr', hcase'⟩ := intercalate_cons t' texts'
      obtain ⟨ht', hts'⟩ := List.forall_mem_cons.mp h'
      rw [hrest, hrest'] at he
      obtain ⟨rfl, rfl⟩ := first_unique ht.1 ht'.1 hr hr' he
      rcases hcase with ⟨rfl, rfl⟩ | ⟨_, rfl⟩
      · rcases hcase' with ⟨rfl, _⟩ | ⟨_, hnil⟩
        · rfl
        · cases hnil
      · rcases hcase' with ⟨_, hnil⟩ | ⟨_, hmore⟩
        · cases hnil
        · rw [ih hts hts' (List.cons.inj hmore).2]

end Item

/-- A text is cut in one way only at the last sign of a kind. -/
theorem cut_last_unique {c : Char} {xs ys rest rest' : List Char} (hr : c ∉ rest) (hr' : c ∉ rest')
    (h : xs ++ c :: rest = ys ++ c :: rest') : xs = ys ∧ rest = rest' := by
  have hback := congrArg List.reverse h
  simp only [List.reverse_append, List.reverse_cons, List.append_assoc,
    List.singleton_append] at hback
  obtain ⟨hrest, hstart⟩ := cut_unique (by simpa using hr) (by simpa using hr') hback
  exact ⟨List.reverse_injective hstart, List.reverse_injective hrest⟩

theorem TypeTree.item_text (t : TypeTree) : Item t.text.toList := by
  cases t with
  | elementary e =>
    have hplain : '(' ∉ e.text.toList ∧ ')' ∉ e.text.toList ∧ ',' ∉ e.text.toList := by
      cases e <;> simp [Elementary.text, not_mem_digits]
    exact .plain hplain.1 hplain.2.1 hplain.2.2
  | array t n =>
    have hplain : '(' ∉ (TypeExpr.dimText n).toList ∧ ')' ∉ (TypeExpr.dimText n).toList ∧
        ',' ∉ (TypeExpr.dimText n).toList := by
      cases n <;> simp [TypeExpr.dimText, not_mem_digits]
    rw [text, String.toList_append]
    exact (item_text t).append (.plain hplain.1 hplain.2.1 hplain.2.2)
  | tuple parts =>
    rw [text, String.toList_append, String.toList_append]
    exact .enclosed (balanced_list (balanced_texts parts))

theorem TypeTree.text_ne_nil (t : TypeTree) : t.text.toList ≠ [] := by
  cases t with
  | elementary e => cases e <;> simp [text, Elementary.text]
  | array t n => simp [text, text_ne_nil t]
  | tuple parts => simp [text]

theorem TypeTree.items_texts (parts : List (String × TypeTree)) :
    ∀ s ∈ texts parts, Item s.toList ∧ s.toList ≠ [] := by
  induction parts with
  | nil => simp [texts]
  | cons part parts ih =>
    exact List.forall_mem_cons.mpr ⟨⟨part.2.item_text, part.2.text_ne_nil⟩, ih⟩

section Canonical

variable {origin origin' s s' : String} {p p' : Parameter} {ps ps' : List Parameter}
variable {texts texts' : List String}

/-- A canonical text is that of an elementary type, or of the parts of a tuple. -/
theorem Parameter.canonical_inv (h : p.canonical origin = .ok s) :
    (∃ e dims, TypeExpr.parse p.typeText = .ok ⟨.elementary e, dims⟩ ∧
      s = TypeExpr.text ⟨.elementary e, dims⟩) ∨
    (∃ dims parts, TypeExpr.parse p.typeText = .ok ⟨.tuple, dims⟩ ∧
      Parameter.canonicals origin p.components = .ok parts ∧
      s = "(" ++ ",".intercalate parts ++ ")" ++ TypeExpr.suffix ⟨.tuple, dims⟩) := by
  cases ht : p.typeExpr origin with
  | error e => cases (Parameter.canonical_error ht).symm.trans h
  | ok t =>
    obtain ⟨hp, _⟩ := Parameter.typeExpr_ok ht
    obtain ⟨base, dims⟩ := t
    cases base with
    | elementary e =>
      exact .inl ⟨e, dims, hp, Except.ok.inj (h.symm.trans (Parameter.canonical_elementary ht))⟩
    | tuple =>
      rw [Parameter.canonical_tuple ht] at h
      obtain ⟨parts, hparts, hs⟩ := except_map_ok.mp h
      exact .inr ⟨dims, parts, hp, hparts, hs.symm⟩

theorem Parameter.canonical_inv_tuple {dims : List (Option Nat)}
    (hp : TypeExpr.parse p.typeText = .ok ⟨.tuple, dims⟩) (h : p.canonical origin = .ok s) :
    ∃ parts, Parameter.canonicals origin p.components = .ok parts ∧
      s = "(" ++ ",".intercalate parts ++ ")" ++ TypeExpr.suffix ⟨.tuple, dims⟩ := by
  rcases Parameter.canonical_inv h with ⟨_, _, hp', _⟩ | ⟨dims', parts, hp', hparts, hs⟩
  · cases hp'.symm.trans hp
  · cases hp'.symm.trans hp
    exact ⟨parts, hparts, hs⟩

theorem Parameter.canonicals_inv (h : Parameter.canonicals origin (p :: ps) = .ok texts) :
    ∃ s rest, p.canonical origin = .ok s ∧ Parameter.canonicals origin ps = .ok rest ∧
      texts = s :: rest := by
  simp only [Parameter.canonicals] at h
  split at h
  · cases h
  · rename_i s hs
    obtain ⟨rest, hrest, he⟩ := except_map_ok.mp h
    exact ⟨s, rest, hs, hrest, he.symm⟩

theorem canonicals_items (h : Parameter.canonicals origin ps = .ok texts) :
    ∀ t ∈ texts.map String.toList, Item t ∧ t ≠ [] := by
  obtain ⟨parts, _, rfl⟩ := Parameter.canonicals_ok ps h
  exact List.forall_mem_map.mpr (TypeTree.items_texts parts)

/-- A list of types can be read in one way only. -/
theorem canonicals_unique (h : Parameter.canonicals origin ps = .ok texts)
    (h' : Parameter.canonicals origin' ps' = .ok texts')
    (he : ",".intercalate texts = ",".intercalate texts') : texts = texts' := by
  have hchars := congrArg String.toList he
  rw [String.toList_intercalate, String.toList_intercalate] at hchars
  have hmap := Item.list_unique (canonicals_items h) (canonicals_items h') hchars
  exact List.map_injective_iff.mpr (fun _ _ => String.toList_inj.mp) hmap

/-- Only a tuple begins with a parenthesis. -/
theorem elementary_ne_tuple {e : Elementary} {dims dims' : List (Option Nat)} {inner : String} :
    TypeExpr.text ⟨.elementary e, dims⟩ ≠
      "(" ++ inner ++ ")" ++ TypeExpr.suffix ⟨.tuple, dims'⟩ := by
  intro he
  have hchars := congrArg String.toList he
  cases e <;> simp [TypeExpr.text, Base.text, Elementary.text] at hchars

/-- The parenthesis that closes a tuple is found by counting. -/
theorem tuple_unique {dims dims' : List (Option Nat)} {inner inner' : String}
    (h : "(" ++ inner ++ ")" ++ TypeExpr.suffix ⟨.tuple, dims⟩ =
      "(" ++ inner' ++ ")" ++ TypeExpr.suffix ⟨.tuple, dims'⟩) : inner = inner' ∧ dims = dims' := by
  have hplain : ∀ dims, ')' ∉ TypeExpr.dimChars dims := by
    intro dims
    simp only [TypeExpr.dimChars, List.mem_flatMap, not_exists, not_and]
    intro d _
    cases d <;> simp [TypeExpr.lengthDigits, not_mem_digits]
  have hchars := congrArg String.toList h
  simp only [String.toList_append, TypeExpr.toList_suffix, List.append_assoc,
    List.append_cancel_left_eq] at hchars
  obtain ⟨hinner, hdims⟩ := cut_last_unique (hplain dims) (hplain dims') hchars
  exact ⟨String.toList_inj.mp hinner, TypeExpr.dimChars_injective hdims⟩

end Canonical

mutual

/-- One spelling is only that of alike types. -/
theorem alike_of_canonical {origin origin' s : String} {p' : Parameter}
    (h' : p'.canonical origin' = .ok s) :
    (p : Parameter) → p.canonical origin = .ok s → AlikeType p p'
  | ⟨name, typeText, internalType, components, indexed⟩, h => by
    rcases Parameter.canonical_inv h with ⟨e, dims, hp, hs⟩ | ⟨dims, parts, hp, hparts, hs⟩
    · rcases Parameter.canonical_inv h' with ⟨e', dims', hp', hs'⟩ | ⟨dims', parts', _, _, hs'⟩
      · obtain ⟨hbase, rfl⟩ := TypeExpr.mk.inj (TypeExpr.text_inj (hs.symm.trans hs'))
        obtain rfl := Base.elementary.inj hbase
        exact .elementary hp hp'
      · exact absurd (hs.symm.trans hs') elementary_ne_tuple
    · rcases Parameter.canonical_inv h' with
        ⟨e', dims', _, hs'⟩ | ⟨dims', parts', hp', hparts', hs'⟩
      · exact absurd (hs'.symm.trans hs) elementary_ne_tuple
      · obtain ⟨hinner, rfl⟩ := tuple_unique (hs.symm.trans hs')
        obtain rfl := canonicals_unique hparts hparts' hinner
        exact .tuple hp hp' (alike_of_canonicals hparts' components hparts)

/-- Parameters with the same canonical texts have alike types. -/
theorem alike_of_canonicals {origin origin' : String} {texts : List String} {ps' : List Parameter}
    (h' : Parameter.canonicals origin' ps' = .ok texts) :
    (ps : List Parameter) → Parameter.canonicals origin ps = .ok texts → AlikeTypes ps ps'
  | [], h => by
    cases h
    cases ps' with
    | nil => exact .nil
    | cons p' ps' =>
      obtain ⟨_, _, _, _, he⟩ := Parameter.canonicals_inv h'
      cases he
  | p :: ps, h => by
    obtain ⟨s, rest, hs, hrest, rfl⟩ := Parameter.canonicals_inv h
    cases ps' with
    | nil => cases h'
    | cons p' ps' =>
      obtain ⟨s', rest', hs', hrest', he⟩ := Parameter.canonicals_inv h'
      obtain ⟨rfl, rfl⟩ := List.cons.inj he
      exact .cons (alike_of_canonical hs' p hs) (alike_of_canonicals hrest' ps hrest)

end

mutual

/-- Alike types have one spelling. -/
theorem AlikeType.canonical_eq {origin origin' s s' : String} {p p' : Parameter} :
    AlikeType p p' → p.canonical origin = .ok s → p'.canonical origin' = .ok s' → s = s'
  | .elementary h h', hs, hs' => by
    rw [Parameter.canonical_elementary (Parameter.typeExpr_elementary h)] at hs
    rw [Parameter.canonical_elementary (Parameter.typeExpr_elementary h')] at hs'
    exact (Except.ok.inj hs).symm.trans (Except.ok.inj hs')
  | .tuple h h' hparts, hs, hs' => by
    obtain ⟨parts, hp, rfl⟩ := Parameter.canonical_inv_tuple h hs
    obtain ⟨parts', hp', rfl⟩ := Parameter.canonical_inv_tuple h' hs'
    rw [hparts.canonicals_eq hp hp']

/-- Alike types have the same canonical texts. -/
theorem AlikeTypes.canonicals_eq {origin origin' : String} {ps ps' : List Parameter}
    {texts texts' : List String} :
    AlikeTypes ps ps' → Parameter.canonicals origin ps = .ok texts →
      Parameter.canonicals origin' ps' = .ok texts' → texts = texts'
  | .nil, h, h' => by
    cases h
    cases h'
    rfl
  | .cons hp hps, h, h' => by
    obtain ⟨s, rest, hs, hrest, rfl⟩ := Parameter.canonicals_inv h
    obtain ⟨s', rest', hs', hrest', rfl⟩ := Parameter.canonicals_inv h'
    rw [hp.canonical_eq hs hs', hps.canonicals_eq hrest hrest']

end

/-- Declarations of one kind and name that take alike types. A declaration without a name goes by
what its signature begins with. -/
structure Declaration.DeclaresAlike (d d' : Declaration) : Prop where
  kind : d.kind = d'.kind
  name : d.nameOrKind = d'.nameOrKind
  inputs : AlikeTypes d.inputs d'.inputs

/-- Two signatures are one just when the names are one and the types are alike. -/
theorem signature_eq_iff {name name' origin origin' sig sig' : String} {ps ps' : List Parameter}
    (h : signature name ps origin = .ok sig) (h' : signature name' ps' origin' = .ok sig') :
    sig = sig' ↔ name = name' ∧ AlikeTypes ps ps' := by
  obtain ⟨texts, ht, hsig⟩ := except_map_ok.mp h
  obtain ⟨texts', ht', hsig'⟩ := except_map_ok.mp h'
  constructor
  · rintro rfl
    obtain rfl := signature_name_unique h h'
    have hlist := hsig.trans hsig'.symm
    rw [String.append_left_inj, String.append_right_inj] at hlist
    obtain rfl := canonicals_unique ht ht' hlist
    exact ⟨rfl, alike_of_canonicals ht' ps ht⟩
  · rintro ⟨rfl, halike⟩
    rw [← hsig, ← hsig', halike.canonicals_eq ht ht']

/-- Declarations are alike just when they agree in kind and signature. -/
theorem Declaration.declaresAlike_iff {d d' : Declaration} {sig sig' : String} (h : d.Signed sig)
    (h' : d'.Signed sig') : d.DeclaresAlike d' ↔ d.kind = d'.kind ∧ sig = sig' := by
  constructor
  · intro halike
    exact ⟨halike.kind, (signature_eq_iff h h').mpr ⟨halike.name, halike.inputs⟩⟩
  · rintro ⟨hkind, hsig⟩
    obtain ⟨hname, hinputs⟩ := (signature_eq_iff h h').mp hsig
    exact ⟨hkind, hname, hinputs⟩

/-- What is left out of the declarations of kinds with names is what declares like an earlier
one. -/
theorem Kept.dropped_iff {ds : List Declaration} {kept : List (Nat × ResolvedDeclaration)}
    (h : Kept [] ds kept) {i : Nat} {d : Declaration} (hd : ds[i]? = some d)
    (hn : d.kind.isNamed = true) :
    (∀ x ∈ kept, x.1 ≠ i) ↔ ∃ j < i, ∃ d', ds[j]? = some d' ∧ d'.DeclaresAlike d := by
  obtain ⟨sig, hsig, hc⟩ := h.covers i d hd
  constructor
  · intro hdropped
    rcases hc with hseen | ⟨x, hx, hle, he⟩
    · cases hseen
    · obtain ⟨hplace, hsig'⟩ := h.here x hx
      obtain ⟨hkind, hs⟩ := (Declaration.identity_eq_iff hn).mp he.symm
      have halike := (Declaration.declaresAlike_iff hsig' hsig).mpr ⟨hkind, hs.symm⟩
      exact ⟨x.1, Nat.lt_of_le_of_ne hle (hdropped x hx), _, hplace, halike⟩
  · rintro ⟨j, hj, d', hd', halike⟩ x hx rfl
    obtain ⟨hplace, hsig'⟩ := h.here x hx
    obtain rfl := Option.some.inj (hd.symm.trans hplace)
    obtain ⟨sig', hother⟩ := h.declared hd'
    obtain ⟨hkind, rfl⟩ := (Declaration.declaresAlike_iff hother hsig').mp halike
    exact (h.firstSigned hx hn).first j hj d' hd' hkind hother

namespace Interface

theorem RawEntry.named {e : RawEntry} {d : Declaration} (h : e.toDeclaration = .ok d)
    (hn : d.kind.isNamed = true) : d.name.isSome = true := by
  unfold toDeclaration at h
  split at h
  · cases h
  · rename_i kind hkind
    split at h
    · cases h
    · rename_i hgiven
      repeat' split at h
      all_goals cases h
      cases hname : e.givenName with
      | none => exact absurd ⟨hn, by rw [hname]; rfl⟩ hgiven
      | some name => rfl

theorem declarationOf_named {entry : Json} {d : Declaration} (h : declarationOf entry = .ok d)
    (hn : d.kind.isNamed = true) : d.name.isSome = true := by
  unfold declarationOf at h
  split at h
  · cases h
  · exact RawEntry.named h hn

theorem declarationsFrom_named {entries : List Json} {index : Nat} {ds : List Declaration}
    (h : declarationsFrom index entries = .ok ds) {d : Declaration} (hd : d ∈ ds)
    (hn : d.kind.isNamed = true) : d.name.isSome = true := by
  induction entries generalizing index ds with
  | nil =>
    cases h
    cases hd
  | cons entry entries ih =>
    unfold declarationsFrom at h
    split at h
    · cases h
    · rename_i declaration hdeclaration
      obtain ⟨rest, hrest, rfl⟩ := except_map_ok.mp h
      rcases List.mem_cons.mp hd with rfl | hd
      · exact declarationOf_named hdeclaration hn
      · exact ih hrest hd

theorem ofJson_declarations {json : Json} {i : Interface} (h : ofJson json = .ok i) :
    ∃ entries, declarationsFrom 0 entries = .ok i.declarations := by
  unfold ofJson at h
  repeat' split at h
  all_goals first | cases h | skip
  · obtain ⟨ds, hds, rfl⟩ := except_map_ok.mp h
    exact ⟨_, hds⟩
  · obtain ⟨ds, hds, rfl⟩ := except_map_ok.mp h
    exact ⟨_, hds⟩

/-- What an interface declares has a name wherever its kind has names. -/
theorem parse_named {text : String} {i : Interface} (h : parse text = .ok i) {d : Declaration}
    (hd : d ∈ i.declarations) (hn : d.kind.isNamed = true) : d.name.isSome = true := by
  unfold parse at h
  split at h
  · cases h
  · obtain ⟨entries, hentries⟩ := ofJson_declarations h
    exact declarationsFrom_named hentries hd hn

end Interface

/-- Declarations that are alike go by the same name, where they have names. -/
theorem Declaration.DeclaresAlike.name_eq {d d' : Declaration} (h : d.DeclaresAlike d')
    (hd : d.name.isSome = true) (hd' : d'.name.isSome = true) : d.name = d'.name := by
  obtain ⟨name, hname⟩ := Option.isSome_iff_exists.mp hd
  obtain ⟨name', hname'⟩ := Option.isSome_iff_exists.mp hd'
  have hsame := h.name
  simp only [nameOrKind, hname, hname'] at hsame
  rw [hname, hname', hsame]

/-- Signatures are the same just when the names are the same and the types alike, whatever signs the
names have. So a declaration of a kind with names is left out just when an earlier one of its kind
has its name and alike types; declarations of an interface then have the name itself. -/
theorem signatures_unambiguous :
    (∀ (name name' origin origin' sig sig' : String) (ps ps' : List Parameter),
      signature name ps origin = .ok sig → signature name' ps' origin' = .ok sig' →
        (sig = sig' ↔ name = name' ∧ AlikeTypes ps ps')) ∧
    (∀ (mode : Representation) (g g' : Gathered) (ds : List Declaration)
      (rs : List ResolvedDeclaration), (resolveDeclarations mode [] g ds).2 = .ok (rs, g') →
        ∃ kept, kept.map (·.2) = rs ∧ Kept [] ds kept ∧
          ∀ (i : Nat) d, ds[i]? = some d → d.kind.isNamed = true →
            ((∀ x ∈ kept, x.1 ≠ i) ↔ ∃ j < i, ∃ d', ds[j]? = some d' ∧ d'.DeclaresAlike d)) ∧
    (∀ (text : String) (interface : Interface), Interface.parse text = .ok interface →
      ∀ d ∈ interface.declarations, ∀ d' ∈ interface.declarations, d.kind.isNamed = true →
        d'.DeclaresAlike d → d.name.isSome = true ∧ d'.name = d.name) := by
  refine ⟨?_, ?_, ?_⟩
  · intro name name' origin origin' sig sig' ps ps' h h'
    exact signature_eq_iff h h'
  · intro mode g g' ds rs h
    obtain ⟨kept, hrs, hk⟩ := resolveDeclarations_kept h
    exact ⟨kept, hrs, hk, fun i d hd hn => hk.dropped_iff hd hn⟩
  · intro text interface h d hd d' hd' hn halike
    have hname := Interface.parse_named h hd hn
    have hname' := Interface.parse_named h hd' (halike.kind ▸ hn)
    exact ⟨hname, halike.name_eq hname' hname⟩

section Payments

def flags (name suffix : String) : Parameter where
  name := name
  typeText := "tuple" ++ suffix
  components := [{ name := "flag", typeText := "bool" }]

def payment (name : String) (inputs : List Parameter) : Declaration where
  kind := .function
  name := some name
  inputs := inputs

def pay : Declaration := payment "pay" [{ name := "", typeText := "uint256" }]

/-- A name that begins like the signature of `pay`. -/
def payFlagged : Declaration :=
  payment "pay(uint256),x" [{ name := "", typeText := "uint" }, flags "" "[2][]"]

def payFlaggedAgain : Declaration :=
  payment "pay(uint256),x" [{ name := "amount", typeText := " uint256" }, flags "flags" "[02][] "]

def repeatedText : String :=
  "[\x7b\"type\":\"function\",\"name\":\"f(\"\x7d,\x7b\"type\":\"function\",\"name\":\"f(\"\x7d]"

theorem signed_of_toOption {d : Declaration} {sig : String}
    (h : (signature d.nameOrKind d.inputs d.describe).toOption = some sig) : d.Signed sig := by
  unfold Declaration.Signed
  cases hs : signature d.nameOrKind d.inputs d.describe with
  | error e =>
    rw [hs] at h
    cases h
  | ok s =>
    rw [hs] at h
    rw [Option.some.inj h]

theorem payments_signed : payFlagged.Signed "pay(uint256),x(uint256,(bool)[2][])" ∧
    payFlaggedAgain.Signed "pay(uint256),x(uint256,(bool)[2][])" ∧ pay.Signed "pay(uint256)" := by
  and_intros <;> exact signed_of_toOption (by decide +kernel)

theorem payments_resolved : ∃ resolved, (resolveDeclarations .precise [] .empty
    [payFlagged, payFlaggedAgain, pay]).2 = .ok resolved ∧ resolved.1.length = 2 :=
  ok_of_view (by decide +kernel)

theorem repeated_parsed : ∃ interface, Interface.parse repeatedText = .ok interface ∧
    interface.declarations.map (fun d => (d.kind, d.name, d.inputs.length)) =
      [(.function, some "f(", 0), (.function, some "f(", 0)] :=
  ok_of_view (by decide +kernel)

/-- The second function is left out, since it is the first one over again. The third is not. -/
theorem signatures_unambiguous_payments :
    AlikeTypes payFlagged.inputs payFlaggedAgain.inputs ∧
    (∃ rs g kept, (resolveDeclarations .precise [] .empty [payFlagged, payFlaggedAgain, pay]).2 =
        .ok (rs, g) ∧ kept.map (·.2) = rs ∧ Kept [] [payFlagged, payFlaggedAgain, pay] kept ∧
          (∀ x ∈ kept, x.1 ≠ 1) ∧ ∃ x ∈ kept, x.1 = 2) ∧
    ∃ interface first second, Interface.parse repeatedText = .ok interface ∧
      interface.declarations = [first, second] ∧ first.DeclaresAlike second ∧
      second.name.isSome = true ∧ first.name = second.name := by
  obtain ⟨hfirst, hsecond, hthird⟩ := payments_signed
  obtain ⟨⟨rs, g⟩, hresolved, _⟩ := payments_resolved
  obtain ⟨interface, hparse, hshown⟩ := repeated_parsed
  obtain ⟨hunique, hfilter, hnames⟩ := signatures_unambiguous
  obtain ⟨hname, hinputs⟩ := (hunique _ _ _ _ _ _ _ _ hfirst hsecond).mp rfl
  refine ⟨hinputs, ?filter, ?parsed⟩
  case filter =>
    obtain ⟨kept, hrs, hkept, hdropped⟩ := hfilter _ _ _ _ _ hresolved
    have hagain : ∀ x ∈ kept, x.1 ≠ 1 :=
      (hdropped 1 payFlaggedAgain rfl rfl).mpr ⟨0, Nat.zero_lt_one, _, rfl, rfl, hname, hinputs⟩
    have hlast : ¬∀ x ∈ kept, x.1 ≠ 2 := by
      intro hnone
      obtain ⟨j, hj, d, hd, halike⟩ := (hdropped 2 pay rfl rfl).mp hnone
      have hflagged : d.nameOrKind = "pay(uint256),x" := by
        rcases Nat.lt_succ_iff_lt_or_eq.mp hj with hj | rfl
        · obtain rfl := Nat.lt_one_iff.mp hj
          exact Option.some.inj hd ▸ rfl
        · exact Option.some.inj hd ▸ rfl
      have hpay : "pay(uint256),x" = "pay" := hflagged.symm.trans halike.name
      contradiction
    exact ⟨rs, g, kept, hresolved, hrs, hkept, hagain, by simpa using hlast⟩
  case parsed =>
    obtain ⟨first, ds, hds, hfirst, hrest⟩ := List.map_eq_cons_iff.mp hshown
    obtain ⟨second, ds, rfl, hsecond, hrest⟩ := List.map_eq_cons_iff.mp hrest
    obtain rfl := List.map_eq_nil_iff.mp hrest
    simp only [Prod.mk.injEq, List.length_eq_zero_iff] at hfirst hsecond
    obtain ⟨hkind, hfirstName, hnone⟩ := hfirst
    obtain ⟨hkind', hsecondName, hnone'⟩ := hsecond
    have halike : first.DeclaresAlike second := by
      refine ⟨hkind.trans hkind'.symm, ?_, ?_⟩
      · simp only [Declaration.nameOrKind, hfirstName, hsecondName]
      · rw [hnone, hnone']
        exact .nil
    obtain ⟨hsome, hsame⟩ := hnames _ _ hparse second (by simp [hds]) first (by simp [hds])
      (by rw [hkind']; rfl) halike
    exact ⟨interface, first, second, hparse, hds, halike, hsome, hsame⟩

end Payments

end AbiBindings
