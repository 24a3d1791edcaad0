import AbiBindings.Proofs.Quoting
import Mathlib

namespace AbiBindings

namespace Json

def textAt? : List String → Json → Option String
  | [], .string s => some s
  | key :: path, .object members => (member? key members).bind (textAt? path)
  | _, _ => none

end Json

namespace Interface

/-- Nothing stands between the blanks but, perhaps, the mark of hexadecimal numbers. -/
def IsBlankCode (raw : String) : Prop := withoutMark (Text.trimChars raw.toList) = []

instance (raw : String) : Decidable (IsBlankCode raw) := inferInstanceAs (Decidable (_ = _))

def firstPlace? (artifact : Json) : Option String :=
  (artifact.textAt? ["bytecode"]).or (artifact.textAt? ["bytecode", "object"])

def secondPlace? (artifact : Json) : Option String :=
  artifact.textAt? ["evm", "bytecode", "object"]

/-- The texts that may hold the bytecode: the one given beside the artifact, then those of its two
places. -/
def codeCandidates (given : Option String) (artifact : Json) : List String :=
  given.toList ++ ((firstPlace? artifact).toList ++ (secondPlace? artifact).toList)

def firstFilled (candidates : List String) : Option String :=
  candidates.find? fun code => decide (¬IsBlankCode code)

/-- Only the second place of an artifact has bytecode, and the first holds a text all the same. -/
structure BlankHides (given : Option String) (artifact : Json) : Prop where
  given : ∀ code ∈ given, IsBlankCode code
  first : ∃ code ∈ firstPlace? artifact, IsBlankCode code
  second : ∃ code ∈ secondPlace? artifact, ¬IsBlankCode code

section Candidates

variable {raw : String} {candidate : Option String}

/-- Just blank code is no bytecode. -/
theorem normalizeBytecode_eq_none_iff : normalizeBytecode raw = none ↔ IsBlankCode raw := by
  unfold normalizeBytecode IsBlankCode
  split <;> simp_all

theorem bind_normalizeBytecode_eq_none_iff :
    candidate.bind normalizeBytecode = none ↔ ∀ code ∈ candidate, IsBlankCode code := by
  simp only [Option.bind_eq_none_iff, normalizeBytecode_eq_none_iff, Option.mem_def]

/-- What is found is not blank. -/
theorem not_blank_of_firstFilled {candidates : List String} {code : String}
    (h : firstFilled candidates = some code) : ¬IsBlankCode code := by
  simpa using List.find?_some h

theorem firstFilled_toList_bind (candidate : Option String) :
    (firstFilled candidate.toList).bind normalizeBytecode = candidate.bind normalizeBytecode := by
  cases candidate with
  | none => rfl
  | some code =>
    by_cases hb : IsBlankCode code
    · simp [firstFilled, hb, normalizeBytecode_eq_none_iff.mpr hb]
    · simp [firstFilled, hb]

/-- The first text that is not blank is the first that normalizes to bytecode. -/
theorem firstFilled_append_bind (candidates more : List String) :
    (firstFilled (candidates ++ more)).bind normalizeBytecode =
      ((firstFilled candidates).bind normalizeBytecode).or
        ((firstFilled more).bind normalizeBytecode) := by
  have happend : firstFilled (candidates ++ more) = (firstFilled candidates).or (firstFilled more) :=
    List.find?_append
  rw [happend]
  cases hf : firstFilled candidates with
  | none => rfl
  | some code =>
    obtain ⟨hex, hhex⟩ := Option.ne_none_iff_exists'.mp
      (mt normalizeBytecode_eq_none_iff.mp (not_blank_of_firstFilled hf))
    simp [hhex]

/-- The first text with bytecode in it is looked for in the order of the candidates. -/
theorem codeCandidates_bind (given : Option String) (artifact : Json) :
    (firstFilled (codeCandidates given artifact)).bind normalizeBytecode =
      (given.bind normalizeBytecode).or (((firstPlace? artifact).bind normalizeBytecode).or
        ((secondPlace? artifact).bind normalizeBytecode)) := by
  rw [codeCandidates, firstFilled_append_bind, firstFilled_append_bind, firstFilled_toList_bind,
    firstFilled_toList_bind, firstFilled_toList_bind]

end Candidates

section Artifacts

variable {members : List (String × Json)} {given : Option String}

theorem textMember?_eq (key : String) (json : Json) : textMember? key json = json.textAt? [key] := by
  cases json with
  | object members =>
    simp only [textMember?, Json.textAt?]
    cases Json.member? key members with
    | none => rfl
    | some value => cases value <;> rfl
  | _ => rfl

theorem textAt?_memberOf (key : String) (path : List String) (json : Json) :
    json.textAt? (key :: path) = (memberOf? key json).bind (Json.textAt? path) := by
  cases json <;> rfl

theorem ownBytecode?_eq (members : List (String × Json)) :
    ownBytecode? members = firstPlace? (.object members) := by
  simp only [ownBytecode?, firstPlace?, Json.textAt?]
  cases Json.member? "bytecode" members with
  | none => rfl
  | some value => cases value <;> simp [Json.textAt?, textMember?_eq]

theorem evmBytecode?_eq (members : List (String × Json)) :
    evmBytecode? members = secondPlace? (.object members) := by
  have hinner : ∀ evm, ((memberOf? "bytecode" evm).bind fun code => code.textAt? ["object"]) =
      evm.textAt? ["bytecode", "object"] := fun evm => (textAt?_memberOf _ _ evm).symm
  simp only [evmBytecode?, Option.bind_eq_bind, textMember?_eq, hinner]
  rfl

/-- The second place counts where the first holds no text, not where it holds a blank one. -/
theorem artifactBytecode_eq (members : List (String × Json)) : artifactBytecode members =
    ((firstPlace? (.object members)).or (secondPlace? (.object members))).bind
      normalizeBytecode := by
  rw [artifactBytecode, ownBytecode?_eq, evmBytecode?_eq]

/-- Bytecode is that of the first candidate that is not blank, as long as no blank text hides it. -/
theorem bytecode_of_candidates (h : ¬BlankHides given (.object members)) :
    (given.bind normalizeBytecode).or (artifactBytecode members) =
      (firstFilled (codeCandidates given (.object members))).bind normalizeBytecode := by
  rw [codeCandidates_bind, artifactBytecode_eq]
  cases hg : given.bind normalizeBytecode with
  | some hex => rfl
  | none =>
    cases hf : firstPlace? (.object members) with
    | none => rfl
    | some code =>
      cases hn : normalizeBytecode code with
      | some hex => simp [hn]
      | none =>
        have hsecond : (secondPlace? (.object members)).bind normalizeBytecode = none := by
          rw [bind_normalizeBytecode_eq_none_iff]
          intro hidden hm
          by_contra hfilled
          exact h ⟨bind_normalizeBytecode_eq_none_iff.mp hg,
            ⟨code, hf, normalizeBytecode_eq_none_iff.mp hn⟩, hidden, hm, hfilled⟩
        simp [hn, hsecond]

theorem bytecode_of_hidden (h : BlankHides given (.object members)) :
    (given.bind normalizeBytecode).or (artifactBytecode members) = none := by
  obtain ⟨code, hcode, hblank⟩ := h.first
  rw [bind_normalizeBytecode_eq_none_iff.mpr h.given, artifactBytecode_eq,
    Option.mem_def.mp hcode]
  simpa using normalizeBytecode_eq_none_iff.mpr hblank

end Artifacts

end Interface

section Compiling

variable {options : Options} {source : Source} {bare : String}
variable {members : List (String × Json)} {entries : List Json}

theorem Interface.parse_artifact (h : Json.parse? source.interface = some (.object members))
    (habi : Json.member? "abi" members = some (.array entries)) :
    parse source.interface =
      (declarationsFrom 0 entries).map fun ds => ⟨ds, artifactBytecode members⟩ := by
  simp only [parse, h, ofJson, habi]

theorem Interface.parse_array (h : Json.parse? bare = some (.array entries)) :
    parse bare = (declarationsFrom 0 entries).map fun ds => ⟨ds, none⟩ := by
  simp only [parse, h, ofJson]

/-- An artifact compiles like its bare array when both settle on the same bytecode. -/
theorem compile_artifact (h : Json.parse? source.interface = some (.object members))
    (habi : Json.member? "abi" members = some (.array entries))
    (hbare : Json.parse? bare = some (.array entries)) {code : Option String}
    (hcode : (source.bytecode.bind Interface.normalizeBytecode).or
      (Interface.artifactBytecode members) = code.bind Interface.normalizeBytecode) :
    compile options source = compile options { source with interface := bare, bytecode := code } := by
  simp only [compile, Interface.parse_artifact h habi, Interface.parse_array hbare]
  cases Interface.declarationsFrom 0 entries with
  | error fault => rfl
  | ok ds => simp only [Except.map, hcode, Option.or_none]

/-- Without bytecode anywhere nothing can be deployed. -/
theorem compile_undeployed (h : Json.parse? source.interface = some (.object members))
    (habi : Json.member? "abi" members = some (.array entries))
    (hnone : (source.bytecode.bind Interface.normalizeBytecode).or
      (Interface.artifactBytecode members) = none) {b : ContractBindings}
    (hb : (compile options source).result = .ok b) : b.deploy = none := by
  simp only [compile, Interface.parse_artifact h habi] at hb
  split at hb
  · cases hb
  · split at hb
    · cases hb
    · rename_i interface hi
      obtain ⟨ds, _, rfl⟩ := except_map_ok.mp hi
      rw [hnone] at hb
      obtain ⟨_, _, hc⟩ := compileDeclarations_ok hb
      exact hc.built.deploy

/-- An artifact compiles as its bare array does with the first of its candidates that is not blank,
unless a blank text in its first place hides bytecode in the second. Then it compiles as the bare array
does without bytecode. Without a candidate that is not blank nothing is deployed either. -/
theorem artifact_as_bare_array (h : Json.parse? source.interface = some (.object members))
    (habi : Json.member? "abi" members = some (.array entries))
    (hbare : Json.parse? bare = some (.array entries)) :
    let artifact := Json.object members
    let candidates := Interface.codeCandidates source.bytecode artifact
    (¬Interface.BlankHides source.bytecode artifact → compile options source = compile options
      { source with interface := bare, bytecode := Interface.firstFilled candidates }) ∧
    (Interface.BlankHides source.bytecode artifact →
      compile options source = compile options { source with interface := bare, bytecode := none } ∧
        ∀ b, (compile options source).result = .ok b → b.deploy = none) ∧
    (Interface.firstFilled candidates = none →
      ∀ b, (compile options source).result = .ok b → b.deploy = none) := by
  intro artifact candidates
  refine ⟨fun hfree => ?_, fun hhides => ⟨?_, fun b hb => ?_⟩, fun hnone b hb => ?_⟩
  · exact compile_artifact h habi hbare (Interface.bytecode_of_candidates hfree)
  · exact compile_artifact h habi hbare (Interface.bytecode_of_hidden hhides)
  · exact compile_undeployed h habi (Interface.bytecode_of_hidden hhides) hb
  · by_cases hhides : Interface.BlankHides source.bytecode artifact
    · exact compile_undeployed h habi (Interface.bytecode_of_hidden hhides) hb
    · have hcode := Interface.bytecode_of_candidates hhides
      rw [show Interface.firstFilled _ = none from hnone] at hcode
      exact compile_undeployed h habi hcode hb

end Compiling

section Wallet

def walletAbi : String := "[\x7b\"type\":\"constructor\"\x7d]"

/-- A contract whose artifact has bytecode in the second place and what is given in the first. -/
def wallet (first : String) (bytecode : Option String) : Source where
  name := "Wallet"
  interface := "\x7b\"abi\":" ++ walletAbi ++ ",\"bytecode\":" ++ first
    ++ ",\"evm\":\x7b\"bytecode\":\x7b\"object\":\" 0X6080 \"\x7d\x7d\x7d"
  package := "bindings"
  bytecode

def walletBare (bytecode : Option String) : Source where
  name := "Wallet"
  interface := walletAbi
  package := "bindings"
  bytecode

def walletEntries : List Json := [.object [("type", .string "constructor")]]

def walletMembers (first : Json) : List (String × Json) :=
  [("abi", .array walletEntries), ("bytecode", first),
    ("evm", .object [("bytecode", .object [("object", .string " 0X6080 ")])])]

theorem walletAbi_parsed : Json.parse? walletAbi = some (.array walletEntries) := by cbv

/-- A blank text beside the artifact and a number in the first place hide nothing. -/
theorem artifact_as_bare_array_wallet :
    Json.parse? (wallet "7" (some " 0x ")).interface = some (.object (walletMembers (.int 7))) ∧
    Json.parse? walletAbi = some (.array walletEntries) ∧
    compile {} (wallet "7" (some " 0x ")) = compile {} (walletBare (some " 0X6080 ")) := by
  have hartifact : Json.parse? (wallet "7" (some " 0x ")).interface =
      some (.object (walletMembers (.int 7))) := by cbv
  refine ⟨hartifact, walletAbi_parsed,
    (artifact_as_bare_array hartifact rfl walletAbi_parsed).1 ?_⟩
  rintro ⟨_, ⟨code, hcode, _⟩, _⟩
  cases hcode

/-- With a blank text in the first place there is no helper, and with the bytecode of the second place
given to the bare array there is one. -/
theorem wallet_helpers : ∃ b b', (compile {} (wallet "\"0x\"" none)).result = .ok b ∧
    (compile {} (walletBare (some " 0X6080 "))).result = .ok b' ∧
    b.deploy = none ∧ b'.deploy.map (·.bytecode) = some "0x6080" :=
  both_ok (by decide +kernel)

/-- A blank text in the first place hides the bytecode in the second, though that is the first
candidate that is not blank. -/
theorem code_hidden_wallet :
    Json.parse? (wallet "\"0x\"" none).interface = some (.object (walletMembers (.string "0x"))) ∧
    Json.parse? walletAbi = some (.array walletEntries) ∧
    Interface.firstFilled (Interface.codeCandidates none (.object (walletMembers (.string "0x")))) =
      some " 0X6080 " ∧
    compile {} (wallet "\"0x\"" none) ≠ compile {} (walletBare (some " 0X6080 ")) := by
  have hartifact : Json.parse? (wallet "\"0x\"" none).interface =
      some (.object (walletMembers (.string "0x"))) := by cbv
  refine ⟨hartifact, walletAbi_parsed, by decide +kernel, ?_⟩
  intro hsame
  obtain ⟨b, b', hb, hb', hnone, hsome⟩ := wallet_helpers
  obtain rfl := Except.ok.inj (hb.symm.trans ((congrArg (·.result) hsame).trans hb'))
  rw [hnone] at hsome
  cases hsome

end Wallet

end AbiBindings
