import AbiBindings.Proofs.CoinedBindings
import AbiBindings.Proofs.Walking
import AbiBindings.Proofs.Packages
import AbiBindings.Proofs.WordNames

namespace AbiBindings

/-- A name that leads one step down from any directory. -/
structure IsPlainName (name : String) : Prop where
  nonempty : name ≠ ""
  notHere : name ≠ "."
  notAbove : name ≠ ".."
  noSeparator : '/' ∉ name.toList
  noNul : '\x00' ∉ name.toList

namespace Text

variable {isBorder : Char → Bool}

theorem splitWhere_whole {piece : List Char} (h : ∀ c ∈ piece, isBorder c = false) :
    splitWhere isBorder piece = [piece] := by
  induction piece with
  | nil => rfl
  | cons c piece ih =>
    obtain ⟨hc, hrest⟩ := List.forall_mem_cons.mp h
    simp [splitWhere, hc, ih hrest]

/-- A border splits a text into the pieces before and those after it. -/
theorem splitWhere_border {border : Char} (h : isBorder border = true) (before after : List Char) :
    splitWhere isBorder (before ++ border :: after) =
      splitWhere isBorder before ++ splitWhere isBorder after := by
  induction before with
  | nil => simp [splitWhere, h]
  | cons c before ih =>
    obtain ⟨first, more, hsplit⟩ := List.exists_cons_of_ne_nil (splitWhere_ne_nil isBorder before)
    by_cases hc : isBorder c = true
    · simp [splitWhere, hc, ih]
    · simp [splitWhere, hc, ih, hsplit]

end Text

namespace Path

/-- A path as something can be added to it. -/
def opened (base : String) : String :=
  if base = "" ∨ base.endsWith '/' then base else base ++ "/"

def joinAll (base : String) (parts : List String) : String := parts.foldl join base

section Joining

variable {base part : String}

theorem endsWith_slash_iff {path : String} :
    path.endsWith '/' = true ↔ path.toList.getLast? = some '/' := by
  simp [String.endsWith_char_eq_getLast?]

theorem names_append_slash (before after : String) :
    names (before ++ "/" ++ after) = names before ++ names after := by
  have hsplit : Text.splitWhere (· == '/') (before.toList ++ '/' :: after.toList) = _ :=
    Text.splitWhere_border rfl before.toList after.toList
  simp [names, hsplit]

theorem names_plain (h : IsPlainName part) : names part = [part] := by
  have hplain : ∀ c ∈ part.toList, (c == '/') = false := by
    intro c hc
    rw [beq_eq_false_iff_ne]
    rintro rfl
    exact h.noSeparator hc
  simp [names, Text.splitWhere_whole hplain, h.nonempty]

/-- What is added to a path that was opened stands behind its names. -/
theorem names_opened (base after : String) : names (opened base ++ after) = names base ++ names after := by
  have hempty : names "" = [] := by decide
  by_cases hbase : base = ""
  · simp [opened, hbase, hempty]
  · by_cases hslash : base.endsWith '/' = true
    · obtain ⟨before, rfl⟩ : ∃ before, base = before ++ "/" := by
        obtain ⟨cs, hcs⟩ := List.getLast?_eq_some_iff.mp (endsWith_slash_iff.mp hslash)
        exact ⟨String.ofList cs, by rw [← String.toList_inj, hcs]; simp⟩
      have hbefore : names (before ++ "/") = names before := by
        have hsplit := names_append_slash before ""
        rwa [String.append_empty, hempty, List.append_nil] at hsplit
      rw [opened, if_pos (.inr hslash), names_append_slash, hbefore]
    · rw [opened, if_neg (by simp [hbase, hslash]), names_append_slash]

theorem isAbsolute_iff {path : String} :
    isAbsolute path = true ↔ path.toList.head? = some '/' := by
  simp [isAbsolute, String.startsWith_char_eq_head?]

theorem not_isAbsolute_plain (h : IsPlainName part) : isAbsolute part = false := by
  rw [Bool.eq_false_iff, ne_eq, isAbsolute_iff]
  exact fun hhead => h.noSeparator (List.mem_of_head? hhead)

theorem isAbsolute_opened (base : String) {after : String} (h : isAbsolute after = false) :
    isAbsolute (opened base ++ after) = isAbsolute base := by
  by_cases hbase : base = ""
  · have hempty : isAbsolute "" = false := by decide
    simp [opened, hbase, h, hempty]
  · obtain ⟨c, cs, hcs⟩ := List.exists_cons_of_ne_nil (String.toList_eq_nil_iff.not.mpr hbase)
    rw [Bool.eq_iff_iff, isAbsolute_iff, isAbsolute_iff]
    unfold opened
    split <;> simp [hcs]

theorem join_plain (h : IsPlainName part) (base : String) : join base part = opened base ++ part := by
  have hrelative : part.startsWith '/' = false := not_isAbsolute_plain h
  rw [join, if_neg (by simp [hrelative]), opened]
  split <;> rfl

theorem names_join (h : IsPlainName part) (base : String) :
    names (join base part) = names base ++ [part] := by
  rw [join_plain h, names_opened, names_plain h]

theorem isAbsolute_join (h : IsPlainName part) (base : String) :
    isAbsolute (join base part) = isAbsolute base := by
  rw [join_plain h, isAbsolute_opened base (not_isAbsolute_plain h)]

theorem components_join (h : IsPlainName part) (base : String) :
    components (join base part) = components base ++ [part] := by
  simp only [components, isAbsolute_join h, names_join h]
  cases isAbsolute base with
  | true => simp [h.notHere]
  | false =>
    cases hnames : names base with
    | nil => simp [h.notHere]
    | cons first rest => by_cases hfirst : first = "." <;> simp [hfirst, h.notHere]

end Joining

section JoiningAll

variable {part : String} {parts : List String}

/-- What grows by every plain name that is added grows by all of them. -/
theorem joinAll_gathers {f : String → List String}
    (hf : ∀ base part, IsPlainName part → f (join base part) = f base ++ [part])
    (h : ∀ part ∈ parts, IsPlainName part) (base : String) :
    f (joinAll base parts) = f base ++ parts := by
  induction parts generalizing base with
  | nil => simp [joinAll]
  | cons part parts ih =>
    obtain ⟨hpart, hparts⟩ := List.forall_mem_cons.mp h
    have hstep := ih hparts (join base part)
    rw [hf base part hpart, List.append_assoc] at hstep
    exact hstep

theorem names_joinAll (h : ∀ part ∈ parts, IsPlainName part) (base : String) :
    names (joinAll base parts) = names base ++ parts :=
  joinAll_gathers (fun base _ hpart => names_join hpart base) h base

theorem components_joinAll (h : ∀ part ∈ parts, IsPlainName part) (base : String) :
    components (joinAll base parts) = components base ++ parts :=
  joinAll_gathers (fun base _ hpart => components_join hpart base) h base

theorem isAbsolute_joinAll (h : ∀ part ∈ parts, IsPlainName part) (base : String) :
    isAbsolute (joinAll base parts) = isAbsolute base := by
  induction parts generalizing base with
  | nil => rfl
  | cons part parts ih =>
    obtain ⟨hpart, hparts⟩ := List.forall_mem_cons.mp h
    have hstep := ih hparts (join base part)
    rwa [isAbsolute_join hpart] at hstep

theorem not_endsWith_plain (h : IsPlainName part) (base : String) :
    (base ++ part).endsWith '/' = false := by
  have hne : part.toList ≠ [] := String.toList_eq_nil_iff.not.mpr h.nonempty
  rw [Bool.eq_false_iff, ne_eq, endsWith_slash_iff, String.toList_append,
    List.getLast?_append_of_ne_nil _ hne]
  exact fun hlast => h.noSeparator (List.mem_of_getLast? hlast)

theorem opened_plain (h : IsPlainName part) (base : String) :
    opened (base ++ part) = base ++ part ++ "/" := by
  rw [opened, if_neg]
  simp [h.nonempty, not_endsWith_plain h]

/-- Separators stand between the parts, and one before them where the base needs it. -/
theorem joinAll_text (h : ∀ part ∈ parts, IsPlainName part) (hne : parts ≠ []) (base : String) :
    joinAll base parts = opened base ++ "/".intercalate parts := by
  induction parts generalizing base with
  | nil => exact absurd rfl hne
  | cons part parts ih =>
    obtain ⟨hpart, hparts⟩ := List.forall_mem_cons.mp h
    cases parts with
    | nil => simpa [joinAll] using join_plain hpart base
    | cons next parts =>
      have hstep := ih hparts (by simp) (join base part)
      rw [join_plain hpart, opened_plain hpart] at hstep
      rw [String.intercalate_cons_cons, ← String.append_assoc, ← String.append_assoc]
      rw [← hstep, ← join_plain hpart]
      rfl

end JoiningAll

end Path

namespace Files.Tree

variable {t : Tree} {here place : Place} {names parts : List String} {root : String}

theorem walk_append {more : List String} (h : t.walk here (names ++ more) = .ok place) :
    ∃ next, t.walk here names = .ok next ∧ t.walk next more = .ok place := by
  induction names generalizing here with
  | nil => exact ⟨here, rfl, h⟩
  | cons name names ih =>
    obtain ⟨next, hs, hw⟩ := walk_cons h
    obtain ⟨mid, hmid, hrest⟩ := ih hw
    exact ⟨mid, by simp only [walk, hs, hmid], hrest⟩

theorem step_plain {name : String} (hn : IsPlainName name) (h : t.step here name = .ok place) :
    place = here ++ [name] := by
  simp only [step] at h
  split at h
  · cases h
  · cases h
  · rw [if_neg hn.notHere, if_neg hn.notAbove] at h
    split at h
    · cases h
    · exact (Except.ok.inj h).symm

/-- Plain names lead straight down. -/
theorem walk_plain (hn : ∀ name ∈ names, IsPlainName name) (h : t.walk here names = .ok place) :
    place = here ++ names := by
  induction names generalizing here with
  | nil =>
    cases h
    simp
  | cons name names ih =>
    obtain ⟨hname, hnames⟩ := List.forall_mem_cons.mp hn
    obtain ⟨next, hs, hw⟩ := walk_cons h
    rw [ih hnames hw, step_plain hname hs, List.append_assoc]
    rfl

theorem checkPath_append {onNul : Fault} {before after : String}
    (h : checkPath (before ++ after) onNul = .ok ()) : checkPath before onNul = .ok () := by
  simp only [checkPath, String.toList_append, String.utf8ByteSize_append] at h ⊢
  grind

theorem steps_joinAll (hp : ∀ part ∈ parts, IsPlainName part) (hne : parts ≠ []) (root : String) :
    Path.steps (Path.joinAll root parts) = Path.names root ++ parts := by
  obtain ⟨front, last, rfl⟩ := (List.eq_nil_or_concat parts).resolve_left hne
  have hlast : IsPlainName last := hp last (by simp)
  have hjoin : Path.joinAll root (front.concat last) =
      Path.opened (Path.joinAll root front) ++ last := by
    rw [← Path.join_plain hlast, Path.joinAll, List.concat_eq_append, List.foldl_append]
    rfl
  have hopen : (Path.joinAll root (front.concat last)).endsWith '/' = false := by
    rw [hjoin, Path.not_endsWith_plain hlast]
  rw [Path.steps, if_neg (Bool.eq_false_iff.mp hopen), Path.names_joinAll hp]

theorem step_here (h : t.entryAt here = some .directory) : t.step here "." = .ok here := by
  obtain ⟨children, hn⟩ := entryAt_eq_directory_iff.mp h
  simp only [step, hn, if_pos]

/-- What plain names below a root lead to has its place below the root's own. -/
theorem find_joinAll (hp : ∀ part ∈ parts, IsPlainName part) (hne : parts ≠ [])
    (h : t.find (Path.joinAll root parts) = .ok place) :
    ∃ here, t.find root = .ok here ∧ place = here ++ parts := by
  simp only [find] at h
  split at h
  · cases h
  · rename_i hchecked
    rw [steps_joinAll hp hne, origin, Path.isAbsolute_joinAll hp] at h
    obtain ⟨here, hroot, hdown⟩ := walk_append h
    refine ⟨here, ?_, walk_plain hp hdown⟩
    have hsound : checkPath root .nulByte = .ok () := by
      rw [Path.joinAll_text hp hne, Path.opened] at hchecked
      split at hchecked
      · exact checkPath_append hchecked
      · exact checkPath_append (checkPath_append hchecked)
    have hdirectory : t.entryAt here = some .directory := by
      obtain ⟨part, rest, rfl⟩ := List.exists_cons_of_ne_nil hne
      obtain ⟨_, hfirst, _⟩ := walk_cons hdown
      exact (step_ok hfirst).1
    simp only [find, hsound, Path.steps]
    split
    · -- A separator at the end of the root asks for a directory, and there is one.
      exact (walk_concat hroot ".").trans (step_here hdirectory)
    · exact hroot

end Files.Tree

section Compiling

variable {options : Options} {source : Source} {b : ContractBindings}

theorem IsWord.not_mem {s : String} {c : Char} (h : IsWord s) (hc : Text.isWordChar c = false) :
    c ∉ s.toList := by
  intro hm
  rw [h c hm] at hc
  cases hc

theorem IsIdentifier.isPlainName {name : String} (h : IsIdentifier name) : IsPlainName name := by
  have hword := h.word.isWord
  refine ⟨h.nonempty, ?_, ?_, hword.not_mem (by decide), hword.not_mem (by decide)⟩
  · rintro rfl
    exact hword.not_mem (c := '.') (by decide) (by simp)
  · rintro rfl
    exact hword.not_mem (c := '.') (by decide) (by simp)

/-- A word with the ending of source files is a plain name, however it came about. -/
theorem IsWord.isPlainName_file {stem : String} (h : IsWord stem) : IsPlainName (stem ++ ".rs") := by
  have hlong : ∀ short : String, short.toList.length < 3 → stem ++ ".rs" ≠ short := by
    rintro _ hshort rfl
    simp at hshort
  refine ⟨hlong "" (by decide), hlong "." (by decide), hlong ".." (by decide), ?_, ?_⟩
  · simp [h.not_mem (c := '/') (by decide)]
  · simp [h.not_mem (c := '\x00') (by decide)]

/-- Building does not touch the module path. -/
theorem buildBindings_modulePath {contractName : String} {modulePath : ModulePath}
    {shapes : ShapeTable} {ds : List ResolvedDeclaration} {bytecode : Option String}
    (h : (buildBindings options contractName modulePath shapes ds bytecode).result = .ok b) :
    b.modulePath = modulePath := by
  simp only [buildBindings] at h
  split at h
  · cases h
  · rw [← Except.ok.inj h]

/-- Where bindings belong is settled by the package and the name of the contract. -/
theorem compileDeclarations_place {contractName : String} {modulePath : ModulePath}
    {ds : List Declaration} {bytecode : Option String}
    (h : (compileDeclarations options contractName modulePath ds bytecode).result = .ok b) :
    b.modulePath = modulePath ∧ b.fileStem = Naming.valueIdent contractName "contract" := by
  simp only [compileDeclarations] at h
  split at h
  · cases h
  · split at h
    · cases h
    · exact ⟨buildBindings_modulePath h, buildBindings_fileStem h⟩

/-- The package decides the module of the bindings, and the contract's name their file. -/
theorem compile_place (h : (compile options source).result = .ok b) :
    ModulePath.parse source.package = .ok b.modulePath ∧
      b.fileStem = Naming.valueIdent source.name "contract" := by
  simp only [compile] at h
  split at h
  · cases h
  · rename_i modulePath hpackage
    split at h
    · cases h
    · obtain ⟨rfl, hstem⟩ := compileDeclarations_place h
      exact ⟨hpackage, hstem⟩

/-- The names that lead from a root to the file of the bindings. -/
def ContractBindings.placeNames (b : ContractBindings) : List String :=
  b.modulePath.segments ++ [b.fileStem ++ ".rs"]

theorem ContractBindings.outputPath_eq (b : ContractBindings) (root : String) :
    b.outputPath root = Path.joinAll root b.placeNames := by
  simp [outputPath, ModulePath.directory, Path.joinAll, placeNames]

theorem placeNames_plain (h : (compile options source).result = .ok b) :
    ∀ name ∈ b.placeNames, IsPlainName name := by
  obtain ⟨hpackage, hstem⟩ := compile_place h
  have hword : IsWord b.fileStem := by
    rw [hstem]
    exact Naming.isWord_valueIdent source.name (by decide)
  refine List.forall_mem_append.mpr ⟨fun segment hs => ?_, ?_⟩
  · exact (ModulePath.identifiers_of_parse hpackage segment hs).isPlainName
  · simpa using hword.isPlainName_file

/-- Whatever the contract is called, the path of its file is the root with the segments of the module
and one file name behind it, none of which leaves the directory it is in. The file stands as far below
the root as there are segments, and one step more. Within one package the path tells the stem. -/
theorem output_below_root (h : (compile options source).result = .ok b) (root : String) :
    ModulePath.parse source.package = .ok b.modulePath ∧
    (∀ name ∈ b.placeNames, IsPlainName name) ∧
    b.outputPath root = Path.opened root ++ "/".intercalate b.placeNames ∧
    Path.components (b.outputPath root) = Path.components root ++ b.placeNames ∧
    (∀ (t : Files.Tree) place, t.find (b.outputPath root) = .ok place →
      ∃ here, t.find root = .ok here ∧ place = here ++ b.placeNames ∧
        place.length = here.length + b.modulePath.segments.length + 1) ∧
    ∀ options' source' b', (compile options' source').result = .ok b' →
      source'.package = source.package →
      (b'.outputPath root = b.outputPath root ↔ b'.fileStem = b.fileStem) := by
  have hplain := placeNames_plain h
  have hne : b.placeNames ≠ [] := by simp [ContractBindings.placeNames]
  refine ⟨(compile_place h).1, hplain, ?text, ?components, fun t place hfind => ?place, ?stems⟩
  case text => rw [b.outputPath_eq, Path.joinAll_text hplain hne]
  case components => rw [b.outputPath_eq, Path.components_joinAll hplain]
  case place =>
    rw [b.outputPath_eq] at hfind
    obtain ⟨here, hroot, rfl⟩ := Files.Tree.find_joinAll hplain hne hfind
    exact ⟨here, hroot, rfl, by simp [ContractBindings.placeNames, Nat.add_assoc]⟩
  case stems =>
    intro options' source' b' h' hpackage
    have hmodule : b'.modulePath = b.modulePath := by
      have hparsed := (compile_place h').1
      rw [hpackage, (compile_place h).1] at hparsed
      exact (Except.ok.inj hparsed).symm
    constructor
    · intro hpath
      have hcomponents := congrArg Path.components hpath
      rw [b.outputPath_eq, b'.outputPath_eq, Path.components_joinAll hplain,
        Path.components_joinAll (placeNames_plain h')] at hcomponents
      simpa [ContractBindings.placeNames, hmodule] using hcomponents
    · intro hstem
      rw [ContractBindings.outputPath, ContractBindings.outputPath, hmodule, hstem]

end Compiling

section Climbing

/-- A contract whose name would climb out of any root. -/
def climbing : Source where
  name := "/../../etc/\x00passwd/.."
  interface := "[]"
  package := "bindings::tokens"

theorem climbing_ok : ∃ b, (compile {} climbing).result = .ok b ∧
    (b.modulePath.segments, b.fileStem) = (["bindings", "tokens"], "etc_passwd") :=
  ok_of_view (by decide +kernel)

theorem climbing_alike_ok : ∃ b, (compile {} { climbing with name := "EtcPasswd" }).result = .ok b ∧
    b.fileStem = "etc_passwd" :=
  ok_of_view (by decide +kernel)

/-- The file of a contract whose name climbs stays below an absolute root. Another name that makes the
same words has the same file. -/
theorem output_below_root_climbing : ∃ b b', (compile {} climbing).result = .ok b ∧
    (compile {} { climbing with name := "EtcPasswd" }).result = .ok b' ∧
    b.outputPath "/srv/out/" = "/srv/out/bindings/tokens/etc_passwd.rs" ∧
    Path.components (b.outputPath "/srv/out/") =
      ["/", "srv", "out", "bindings", "tokens", "etc_passwd.rs"] ∧
    b'.outputPath "/srv/out/" = b.outputPath "/srv/out/" := by
  obtain ⟨b, hb, hview⟩ := climbing_ok
  obtain ⟨b', hb', hstem'⟩ := climbing_alike_ok
  obtain ⟨hsegments, hstem⟩ := Prod.mk.inj hview
  have hnames : b.placeNames = ["bindings", "tokens", "etc_passwd.rs"] := by
    rw [ContractBindings.placeNames, hsegments, hstem]
    rfl
  obtain ⟨_, _, htext, hcomponents, _, hsame⟩ := output_below_root hb "/srv/out/"
  rw [hnames] at htext hcomponents
  refine ⟨b, b', hb, hb', htext.trans (by decide +kernel), hcomponents.trans (by decide +kernel), ?_⟩
  exact (hsame {} { climbing with name := "EtcPasswd" } b' hb' rfl).mpr (hstem'.trans hstem.symm)

end Climbing

end AbiBindings
