import AbiBindings.Proofs.UnbrokenPages

namespace AbiBindings

theorem Elementary.unbroken_text (e : Elementary) : Unbroken e.text := e.isAsciiWord_text.isWord.unbroken

theorem TypeExpr.unbroken_dimText (d : Option Nat) : Unbroken (dimText d) := by
  cases d with
  | none => exact unbroken_ofList (by decide)
  | some n =>
    exact unbroken_around (unbroken_ofList (by decide)) (unbroken_toString n)
      (unbroken_ofList (by decide))

namespace TypeTree

theorem unbroken_list {texts : List String} (h : ∀ text ∈ texts, Unbroken text) :
    Unbroken ("(" ++ ",".intercalate texts ++ ")") :=
  unbroken_around (unbroken_ofList (by decide))
    (unbroken_intercalate (unbroken_ofList (by decide)) h) (unbroken_ofList (by decide))

mutual

theorem unbroken_text : (t : TypeTree) → Unbroken t.text
  | .elementary e => e.unbroken_text
  | .array t n => unbroken_append.mpr ⟨unbroken_text t, TypeExpr.unbroken_dimText n⟩
  | .tuple parts => unbroken_list (unbroken_texts parts)

theorem unbroken_texts : (parts : List (String × TypeTree)) → ∀ s ∈ texts parts, Unbroken s
  | [] => by simp [texts]
  | (_, t) :: parts => List.forall_mem_cons.mpr ⟨unbroken_text t, unbroken_texts parts⟩

end

end TypeTree

/-- A signature breaks a line just when its name does. -/
theorem unbroken_signature_iff {name origin sig : String} {ps : List Parameter}
    (h : signature name ps origin = .ok sig) : Unbroken sig ↔ Unbroken name := by
  obtain ⟨parts, _, rfl⟩ := signature_ok h
  have hlist := TypeTree.unbroken_list (TypeTree.unbroken_texts parts)
  simp only [unbroken_append] at hlist ⊢
  exact ⟨fun hs => hs.1.1.1, fun hn => ⟨⟨⟨hn, hlist.1.1⟩, hlist.1.2⟩, hlist.2⟩⟩

namespace ModulePath

theorem isWord_of_isName {segment : String} (h : isName segment.toList = true) :
    IsWord segment := by
  have hcontinue : ∀ c, isContinue c = true → Text.isWordChar c = true := by
    intro c hc
    simp only [isContinue, Bool.or_eq_true, decide_eq_true_eq] at hc
    rcases hc with ha | rfl
    · exact Text.isWordChar_of_alphanum ha
    · decide
  intro c hc
  cases he : segment.toList with
  | nil => simp [he] at hc
  | cons first rest =>
    simp only [he, isName, Bool.and_eq_true, List.all_eq_true] at h
    have hfirst : isContinue first = true := by
      have hs := h.1.1
      simp only [isStart, isContinue, Bool.or_eq_true, Char.isAlphanum] at hs ⊢
      exact hs.imp_left fun ha => .inl ha
    rw [he] at hc
    rcases List.mem_cons.mp hc with rfl | hm
    · exact hcontinue c hfirst
    · exact hcontinue c (h.1.2 c hm)

theorem isName_of_checkSegments {segments : List String} (h : checkSegments segments = .ok ()) :
    ∀ segment ∈ segments, isName segment.toList = true := by
  induction segments with
  | nil => simp
  | cons segment segments ih =>
    simp only [checkSegments] at h
    split at h
    · cases h
    · rename_i hc
      refine List.forall_mem_cons.mpr ⟨?_, ih h⟩
      simp only [checkSegment] at hc
      split at hc
      · cases hc
      · rename_i hn
        simpa using hn

theorem unbroken_text_of_trimmed {package : String} {m : ModulePath}
    (h : ofTrimmed package = .ok m) : Unbroken m.text := by
  simp only [ofTrimmed] at h
  split at h
  · cases h
  · obtain ⟨_, hc, rfl⟩ := except_map_ok.mp h
    have hnames := isName_of_checkSegments hc
    unfold text
    refine unbroken_intercalate ?_ fun segment hs => (isWord_of_isName (hnames segment hs)).unbroken
    exact unbroken_ofList (by decide)

/-- A module path is spelled with words and colons. -/
theorem unbroken_text_of_parse {package : String} {m : ModulePath} (h : parse package = .ok m) :
    Unbroken m.text := by
  simp only [parse] at h
  cases ht : ofTrimmed (Text.trim package) with
  | error fault => simp [ht, Except.mapError] at h
  | ok m' =>
    simp only [ht, Except.mapError, Except.ok.injEq] at h
    exact h ▸ unbroken_text_of_trimmed ht

end ModulePath

namespace ContractBindings

/-- The names that the caller and the interface give, in their own spelling. Deployment goes by the
signature of the constructor. -/
def rawNames (b : ContractBindings) : List String :=
  b.contractName :: (b.functions.map (·.abiName) ++ b.events.map (·.abiName)
    ++ b.errors.map (·.abiName) ++ (b.deploy.bind (·.signature)).toList)

variable {b : ContractBindings} {mode : Representation} {ds : List Declaration}
variable {bytecode : Option String} {rs : List ResolvedDeclaration} {g : Gathered}

/-- A property of all raw names, by where they stand. -/
theorem forall_rawNames {P : String → Prop} : (∀ name ∈ b.rawNames, P name) ↔
    P b.contractName ∧ (∀ f ∈ b.functions, P f.abiName) ∧ (∀ e ∈ b.events, P e.abiName) ∧
      (∀ e ∈ b.errors, P e.abiName) ∧
      ∀ helper ∈ b.deploy, ∀ signature ∈ helper.signature, P signature := by
  simp only [rawNames, List.forall_mem_cons, List.forall_mem_append, List.forall_mem_map,
    Option.mem_toList, Option.mem_def, Option.bind_eq_some_iff, and_assoc, forall_exists_index,
    and_imp]
  grind

/-- No raw text breaks a line as long as no name does. -/
theorem Compiled.oneLineTexts_iff (h : b.Compiled mode ds bytecode rs g) :
    b.OneLineTexts ↔ ∀ name ∈ b.rawNames, Unbroken name := by
  have hfunction : ∀ f ∈ b.functions, (Unbroken f.signature ↔ Unbroken f.abiName) := by
    intro f hf
    obtain ⟨r, hr, _, hb⟩ := h.function hf
    rw [hb.signature, hb.abiName]
    exact unbroken_signature_iff (h.sound r hr).signature
  have hevent : ∀ e ∈ b.events, (Unbroken e.signature ↔ Unbroken e.abiName) := by
    intro e he
    obtain ⟨r, hr, _, hb⟩ := h.event he
    rw [hb.signature, hb.abiName]
    exact unbroken_signature_iff (h.sound r hr).signature
  have herror : ∀ e ∈ b.errors, (Unbroken e.signature ↔ Unbroken e.abiName) := by
    intro e he
    obtain ⟨r, hr, _, hb⟩ := h.error he
    rw [hb.signature, hb.abiName]
    exact unbroken_signature_iff (h.sound r hr).signature
  rw [forall_rawNames]
  constructor
  · rintro ⟨hc, hf, he, hx, hd⟩
    exact ⟨hc, fun f hm => (hfunction f hm).mp (hf f hm), fun e hm => (he e hm).2,
      fun e hm => (herror e hm).mp (hx e hm), hd⟩
  · rintro ⟨hc, hf, he, hx, hd⟩
    exact ⟨hc, fun f hm => (hfunction f hm).mpr (hf f hm),
      fun e hm => ⟨(hevent e hm).mpr (he e hm), he e hm⟩,
      fun e hm => (herror e hm).mpr (hx e hm), hd⟩

end ContractBindings

namespace Render

variable {b : ContractBindings} {names : StructNames} {runtime : String}

theorem unbroken_of_docLine {text : String} (h : (docLine text).Unbroken) : Unbroken text :=
  (unbroken_append.mp h).2

/-- What a part under an empty line is made of is found among all parts. -/
theorem mem_sections {α : Type} {xs : List α} {part : α → List Step} {x : α} {s : Step}
    (hx : x ∈ xs) (hs : s ∈ part x) : s ∈ xs.flatMap fun x => .blank :: part x :=
  List.mem_flatMap.mpr ⟨x, hx, List.mem_cons_of_mem _ hs⟩

/-- The methods of the handle quote the events' names and the constructor's signature. -/
theorem contract_quotes (h : ∀ s ∈ contract names b, s.Unbroken) :
    (∀ e ∈ b.events, Unbroken e.abiName) ∧
      ∀ helper ∈ b.deploy, ∀ signature ∈ helper.signature, Unbroken signature := by
  unfold contract block at h
  simp only [List.forall_mem_append, List.forall_mem_cons] at h
  obtain ⟨_, _, ⟨_, ⟨⟨⟨_, hdeploy⟩, _⟩, hfilters⟩, _⟩, _⟩ := h
  refine ⟨fun e he => ?_, ?_⟩
  · exact unbroken_of_around
      (unbroken_of_docLine (hfilters _ (mem_sections he List.mem_cons_self)))
  · rintro helper hd signature hs
    have hdoc := hdeploy (docLine ("Deploys a new instance through `" ++ signature ++ "`."))
      (by simp [deploySection, deployMethod, Option.mem_def.mp hd, Option.mem_def.mp hs])
    exact unbroken_of_around (unbroken_of_docLine hdoc)

/-- Every raw text is quoted on the page. -/
theorem oneLineTexts_of_page (h : ∀ s ∈ page b runtime, s.Unbroken) : b.OneLineTexts := by
  unfold page at h
  simp only [List.forall_mem_append, List.forall_mem_cons] at h
  obtain ⟨⟨⟨⟨⟨⟨hheader, _⟩, _⟩, hevents⟩, herrors⟩, _, hcontract⟩, hencoders⟩ := h
  obtain ⟨hfilters, hdeploy⟩ := contract_quotes hcontract
  refine ⟨?_, fun f hf => ?_, fun e he => ⟨?_, hfilters e he⟩, fun e he => ?_, hdeploy⟩
  · exact unbroken_of_around (hheader _ List.mem_cons_self)
  · exact unbroken_of_around
      (unbroken_of_docLine (hencoders _ (mem_sections hf List.mem_cons_self)))
  · have hdoc := unbroken_of_docLine (hevents _ (mem_sections he List.mem_cons_self))
    exact unbroken_of_around (unbroken_append.mp (unbroken_append.mp hdoc).1).1
  · exact unbroken_of_around (unbroken_of_docLine (herrors _ (mem_sections he List.mem_cons_self)))

end Render

end AbiBindings
