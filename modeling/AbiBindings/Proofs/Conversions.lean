import AbiBindings.Proofs.Coherence

namespace AbiBindings

namespace Render

/-- What is written for one type: its name, its type on the wire, and the two converters of a value
or token with a given text. -/
structure Texts where
  type : String
  param : String
  toToken : String → String
  ofToken : String → String

/-- The types that convert themselves, with their name and their type on the wire. -/
inductive Tokenized (names : StructNames) : Wire → Target → String → String → Prop
  | bool : Tokenized names (.elementary .bool) .bool "bool" "ParamType::Bool"
  | address : Tokenized names (.elementary .address) .address "ethabi::Address" "ParamType::Address"
  | string : Tokenized names (.elementary .string) .string "String" "ParamType::String"
  | wideUint (bits : Nat) : Tokenized names (.elementary (.uint bits)) .wideUint "ethabi::Uint"
    ("ParamType::Uint(" ++ toString bits ++ ")")
  | nativeUint (bits : Nat) (n : NativeInt) : Tokenized names (.elementary (.uint bits)) (.native n)
    n.text ("ParamType::Uint(" ++ toString bits ++ ")")
  | nativeInt (bits : Nat) (n : NativeInt) : Tokenized names (.elementary (.int bits)) (.native n)
    n.text ("ParamType::Int(" ++ toString bits ++ ")")
  | struct (id : StructId) : Tokenized names (.tuple id) (.struct id) (names id)
    (names id ++ "::param_type()")

/-- What is written for a type that is no array. Bytes and signed words have converters of their
own, each a pair. -/
inductive Leaf (names : StructNames) : Wire → Target → Texts → Prop
  | bytes : Leaf names (.elementary .bytes) .bytes
    { type := "Vec<u8>"
      param := "ParamType::Bytes"
      toToken := fun value => "Token::Bytes(" ++ value ++ ")"
      ofToken := fun token => "rt::bytes_from_token(" ++ token ++ ")" }
  | fixedBytes (size : Nat) : Leaf names (.elementary (.fixedBytes size)) (.fixedBytes size)
    { type := "[u8; " ++ toString size ++ "]"
      param := "ParamType::FixedBytes(" ++ toString size ++ ")"
      toToken := fun value => "Token::FixedBytes(" ++ value ++ ".to_vec())"
      ofToken := fun token =>
        "rt::fixed_bytes_from_token::<" ++ toString size ++ ">(" ++ token ++ ")" }
  | wideInt (bits : Nat) : Leaf names (.elementary (.int bits)) .wideInt
    { type := "ethabi::Int"
      param := "ParamType::Int(" ++ toString bits ++ ")"
      toToken := fun value => "Token::Int(" ++ value ++ ")"
      ofToken := fun token => "rt::int_from_token(" ++ token ++ ")" }
  | tokenized {wire : Wire} {target : Target} {type param : String}
    (h : Tokenized names wire target type param) : Leaf names wire target
    { type, param
      toToken := fun value => value ++ ".into_token()"
      ofToken := fun token => "<" ++ type ++ " as Tokenize>::from_token(" ++ token ++ ")" }

/-- An array within a type: its length, if that is fixed, and the variable for its elements. -/
structure Level where
  length : Option Nat
  item : String

/-- Levels from the outermost in. The variables are numbered on from a depth. -/
def levels (depth : Nat) (lengths : List (Option Nat)) : List Level :=
  (lengths.zipIdx depth).map fun (length, i) => ⟨length, "item" ++ toString i⟩

def nestedWire (leaf : Wire) : List (Option Nat) → Wire
  | [] => leaf
  | length :: lengths => .array (nestedWire leaf lengths) length

def nestedTarget (leaf : Target) : List (Option Nat) → Target
  | [] => leaf
  | none :: lengths => .vec (nestedTarget leaf lengths)
  | some n :: lengths => .array (nestedTarget leaf lengths) n

def nestedType (leaf : String) : List (Option Nat) → String
  | [] => leaf
  | none :: lengths => "Vec<" ++ nestedType leaf lengths ++ ">"
  | some n :: lengths => "[" ++ nestedType leaf lengths ++ "; " ++ toString n ++ "]"

def nestedParam (leaf : String) : List (Option Nat) → String
  | [] => leaf
  | none :: lengths => "ParamType::Array(Box::new(" ++ nestedParam leaf lengths ++ "))"
  | some n :: lengths =>
    "ParamType::FixedArray(Box::new(" ++ nestedParam leaf lengths ++ "), " ++ toString n ++ ")"

def nestedToToken (leaf : String → String) : List Level → String → String
  | [], value => leaf value
  | ⟨none, item⟩ :: inner, value =>
    "Token::Array(" ++ value ++ ".into_iter().map(|" ++ item ++ "| "
      ++ nestedToToken leaf inner item ++ ").collect())"
  | ⟨some _, item⟩ :: inner, value =>
    "Token::FixedArray(" ++ value ++ ".into_iter().map(|" ++ item ++ "| "
      ++ nestedToToken leaf inner item ++ ").collect())"

def nestedOfToken (leaf : String → String) : List Level → String → String
  | [], token => leaf token
  | ⟨none, item⟩ :: inner, token =>
    "rt::array_from_token(" ++ token ++ ", |" ++ item ++ "| " ++ nestedOfToken leaf inner item
      ++ ")"
  | ⟨some n, item⟩ :: inner, token =>
    "rt::fixed_array_from_token::<_, " ++ toString n ++ ">(" ++ token ++ ", |" ++ item ++ "| "
      ++ nestedOfToken leaf inner item ++ ")"

/-- The four texts of a type go through the same arrays, down to the same leaf. -/
structure InStep (names : StructNames) (wire : Wire) (target : Target)
    (lengths : List (Option Nat)) (leaf : Texts) : Prop where
  typeName : Render.typeName names target = nestedType leaf.type lengths
  paramType : Render.paramType names wire = nestedParam leaf.param lengths
  intoToken : ∀ value depth, Render.intoToken wire target value depth =
    nestedToToken leaf.toToken (levels depth lengths) value
  fromToken : ∀ token depth, Render.fromToken names wire target token depth =
    nestedOfToken leaf.ofToken (levels depth lengths) token

section Levels

variable {depth : Nat} {lengths : List (Option Nat)}

theorem levels_cons (length : Option Nat) :
    levels depth (length :: lengths) = ⟨length, itemName depth⟩ :: levels (depth + 1) lengths :=
  rfl

/-- No two closures, one within the other, name their element alike. -/
theorem levels_items_nodup (depth : Nat) (lengths : List (Option Nat)) :
    ((levels depth lengths).map (·.item)).Nodup := by
  have hi : (levels depth lengths).map (·.item) =
      (List.range' depth lengths.length).map fun i => "item" ++ toString i := by
    induction lengths generalizing depth with
    | nil => rfl
    | cons length lengths ih =>
      rw [levels_cons, List.map_cons, ih, List.length_cons, List.range'_succ, List.map_cons]
      rfl
  rw [hi]
  exact List.Nodup.map (fun i j h => labelled_injective h) (List.nodup_range' ..)

end Levels

section Descent

variable {names : StructNames} {mode : Representation} {wire : Wire} {target : Target}
variable {lengths : List (Option Nat)} {leaf : Texts}

theorem InStep.vec (h : InStep names wire target lengths leaf) :
    InStep names (.array wire none) (.vec target) (none :: lengths) leaf := by
  refine ⟨?_, ?_, ?_, ?_⟩
  · exact congrArg ("Vec<" ++ · ++ ">") h.typeName
  · exact congrArg ("ParamType::Array(Box::new(" ++ · ++ "))") h.paramType
  · intro value depth
    -- The element is converted under the variable of this level, one level further in.
    have hi := h.intoToken (itemName depth) (depth + 1)
    calc
      Render.intoToken (.array wire none) (.vec target) value depth =
          arrayToken value (itemName depth)
            (Render.intoToken wire target (itemName depth) (depth + 1)) none := rfl
      _ = arrayToken value (itemName depth)
            (nestedToToken leaf.toToken (levels (depth + 1) lengths) (itemName depth)) none :=
          congrArg (arrayToken value (itemName depth) · none) hi
      _ = nestedToToken leaf.toToken (levels depth (none :: lengths)) value := rfl
  · intro token depth
    exact congrArg ("rt::array_from_token(" ++ token ++ ", |" ++ itemName depth ++ "| " ++ · ++ ")")
      (h.fromToken (itemName depth) (depth + 1))

theorem InStep.array (h : InStep names wire target lengths leaf) (n : Nat) :
    InStep names (.array wire (some n)) (.array target n) (some n :: lengths) leaf := by
  refine ⟨?_, ?_, ?_, ?_⟩
  · exact congrArg ("[" ++ · ++ "; " ++ toString n ++ "]") h.typeName
  · exact congrArg ("ParamType::FixedArray(Box::new(" ++ · ++ "), " ++ toString n ++ ")")
      h.paramType
  · intro value depth
    have hi := h.intoToken (itemName depth) (depth + 1)
    calc
      Render.intoToken (.array wire (some n)) (.array target n) value depth =
          arrayToken value (itemName depth)
            (Render.intoToken wire target (itemName depth) (depth + 1)) (some n) := rfl
      _ = arrayToken value (itemName depth)
            (nestedToToken leaf.toToken (levels (depth + 1) lengths) (itemName depth)) (some n) :=
          congrArg (arrayToken value (itemName depth) · (some n)) hi
      _ = nestedToToken leaf.toToken (levels depth (some n :: lengths)) value := rfl
  · intro token depth
    exact congrArg ("rt::fixed_array_from_token::<_, " ++ toString n ++ ">(" ++ token ++ ", |"
      ++ itemName depth ++ "| " ++ · ++ ")") (h.fromToken (itemName depth) (depth + 1))

/-- A type that converts itself is a leaf under no array. -/
theorem Tokenized.inStep {type param : String} (h : Tokenized names wire target type param) :
    InStep names wire target []
      { type, param
        toToken := fun value => value ++ ".into_token()"
        ofToken := fun token => "<" ++ type ++ " as Tokenize>::from_token(" ++ token ++ ")" } := by
  cases h <;> exact ⟨rfl, rfl, fun _ _ => rfl, fun _ _ => rfl⟩

theorem Leaf.inStep (h : Leaf names wire target leaf) : InStep names wire target [] leaf := by
  cases h with
  | tokenized h => exact h.inStep
  | _ => exact ⟨rfl, rfl, fun _ _ => rfl, fun _ _ => rfl⟩

/-- A type whose parts fit is made of arrays around one leaf. -/
theorem inStep_of_fits (names : StructNames) (h : Fits mode wire target) :
    ∃ lengths leafWire leafTarget leaf, wire = nestedWire leafWire lengths ∧
      target = nestedTarget leafTarget lengths ∧ Leaf names leafWire leafTarget leaf ∧
      InStep names wire target lengths leaf := by
  have single : ∀ {w : Wire} {t : Target} {leaf : Texts}, Leaf names w t leaf →
      ∃ lengths leafWire leafTarget leaf, w = nestedWire leafWire lengths ∧
        t = nestedTarget leafTarget lengths ∧ Leaf names leafWire leafTarget leaf ∧
        InStep names w t lengths leaf :=
    fun hl => ⟨[], _, _, _, rfl, rfl, hl, hl.inStep⟩
  induction h with
  | bool => exact single (.tokenized .bool)
  | address => exact single (.tokenized .address)
  | fixedBytes size => exact single (.fixedBytes size)
  | bytes => exact single .bytes
  | string => exact single (.tokenized .string)
  | wideUint bits _ => exact single (.tokenized (.wideUint bits))
  | wideInt bits _ => exact single (.wideInt bits)
  | nativeUint _ _ _ => exact single (.tokenized (.nativeUint _ _))
  | nativeInt _ _ _ => exact single (.tokenized (.nativeInt _ _))
  | vec _ ih =>
    obtain ⟨lengths, w, t, leaf, rfl, rfl, hl, hs⟩ := ih
    exact ⟨none :: lengths, w, t, leaf, rfl, rfl, hl, hs.vec⟩
  | array n _ ih =>
    obtain ⟨lengths, w, t, leaf, rfl, rfl, hl, hs⟩ := ih
    exact ⟨some n :: lengths, w, t, leaf, rfl, rfl, hl, hs.array n⟩
  | struct id => exact single (.tokenized (.struct id))

end Descent

end Render

open Render in
/-- Whatever has a type of the bindings is converted alike in both directions: the name of the type,
its type on the wire, the expression that makes a token of a value and the one that makes a value of
a token go through the same arrays with the same lengths, under variables that all differ, down to a
leaf with a matching pair of converters. -/
theorem conversions_in_step {options : Options} {contractName : String} {modulePath : ModulePath}
    {ds : List Declaration} {bytecode : Option String} {b : ContractBindings}
    (h : (compileDeclarations options contractName modulePath ds bytecode).result = .ok b)
    (names : StructNames) :
    ∀ t ∈ b.fieldTypes ++ b.memberTypes, t ≠ .topicHash →
      ∃ lengths leafWire leafTarget leaf, t.wire = nestedWire leafWire lengths ∧
        t.target = nestedTarget leafTarget lengths ∧ Leaf names leafWire leafTarget leaf ∧
        InStep names t.wire t.target lengths leaf ∧
        ∀ depth, ((levels depth lengths).map (·.item)).Nodup := by
  obtain ⟨rs, g, hc⟩ := compileDeclarations_ok h
  intro t ht hne
  have hcoherent : t.Coherent options.representation b.structs :=
    (hc.coherent_or_topicHash ht).resolve_right hne
  obtain ⟨lengths, leafWire, leafTarget, leaf, hw, ht', hl, hs⟩ :=
    inStep_of_fits names hcoherent.fits
  exact ⟨lengths, leafWire, leafTarget, leaf, hw, ht', hl, hs,
    fun depth => levels_items_nodup depth lengths⟩

open Render in
/-- Steps of an auction nest two levels. -/
theorem conversions_in_step_auction : ∃ b, auctionBindings = .ok b ∧
    auctionSteps ∈ b.fieldTypes ++ b.memberTypes ∧ auctionSteps ≠ .topicHash ∧
    ∃ lengths leafWire leafTarget leaf, auctionSteps.wire = nestedWire leafWire lengths ∧
      Leaf (structName b) leafWire leafTarget leaf ∧
      InStep (structName b) auctionSteps.wire auctionSteps.target lengths leaf := by
  obtain ⟨b, hb, hsteps, _⟩ := auctionBindings_event
  have hmem := ContractBindings.mem_of_valueTypes hsteps
  have hne : auctionSteps ≠ .topicHash := by decide
  obtain ⟨lengths, w, t, leaf, hw, _, hl, hs, _⟩ :=
    conversions_in_step hb (structName b) auctionSteps hmem hne
  exact ⟨b, hb, hmem, hne, lengths, w, t, leaf, hw, hl, hs⟩

end AbiBindings
