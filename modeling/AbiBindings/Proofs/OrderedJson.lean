import AbiBindings.Json.Reader
import Mathlib.Data.List.Basic

namespace AbiBindings.Json

/-- Members ascend by key, at every depth. -/
inductive Ordered : Json → Prop
  | null : Ordered .null
  | bool (b : Bool) : Ordered (.bool b)
  | int (n : Int) : Ordered (.int n)
  | float (x : Float) : Ordered (.float x)
  | string (s : String) : Ordered (.string s)
  | array {items : List Json} (hitems : ∀ item ∈ items, Ordered item) : Ordered (.array items)
  | object {members : List (String × Json)} (hkeys : (members.map (·.1)).Pairwise (· < ·))
      (hvalues : ∀ m ∈ members, Ordered m.2) : Ordered (.object members)

structure OrderedMembers (members : List (String × Json)) : Prop where
  keys : (members.map (·.1)).Pairwise (· < ·)
  values : ∀ m ∈ members, m.2.Ordered

def Frame.Ordered : Frame → Prop
  | .items read => ∀ item ∈ read, item.Ordered
  | .members read => OrderedMembers read
  | .member read _ => OrderedMembers read

def Stage.Ordered : Stage → Prop
  | .after read => read.Ordered
  | _ => True

def Token.Ordered : Token → Prop
  | .plain value => value.Ordered
  | _ => True

section Members

variable {key : String} {value : Json} {members : List (String × Json)}

theorem OrderedMembers.nil : OrderedMembers [] := ⟨List.Pairwise.nil, by simp⟩

theorem mem_setMember {m : String × Json} (h : m ∈ setMember key value members) :
    m = (key, value) ∨ m ∈ members := by
  induction members with
  | nil => simpa [setMember] using h
  | cons first members ih =>
    rw [setMember] at h
    split at h
    · exact (List.mem_cons.mp h).imp_right (List.mem_cons_of_mem _)
    · split at h
      · exact List.mem_cons.mp h
      · rcases List.mem_cons.mp h with rfl | h
        · exact .inr List.mem_cons_self
        · exact (ih h).imp_right (List.mem_cons_of_mem _)

theorem OrderedMembers.set (h : OrderedMembers members) (hvalue : value.Ordered) :
    OrderedMembers (setMember key value members) := by
  refine ⟨?_, ?_⟩
  · have hkeys := h.keys
    clear h
    induction members with
    | nil => simp [setMember]
    | cons first members ih =>
      obtain ⟨other, old⟩ := first
      obtain ⟨hfirst, hrest⟩ := List.pairwise_cons.mp hkeys
      rw [setMember]
      split
      · rename_i hkey
        subst hkey
        exact List.pairwise_cons.mpr ⟨hfirst, hrest⟩
      · rename_i hne
        split
        · rename_i hlt
          refine List.pairwise_cons.mpr ⟨?_, hkeys⟩
          intro k hk
          rcases List.mem_cons.mp hk with rfl | hk
          · exact hlt
          · exact String.lt_trans hlt (hfirst k hk)
        · rename_i hnlt
          have hlt : other < key := by
            by_contra hge
            exact hne (String.le_antisymm (String.not_lt.mp hnlt) (String.not_lt.mp hge))
          refine List.pairwise_cons.mpr ⟨?_, ih hrest⟩
          intro k hk
          obtain ⟨m, hm, rfl⟩ := List.mem_map.mp hk
          rcases mem_setMember hm with rfl | hm
          · exact hlt
          · exact hfirst _ (List.mem_map_of_mem hm)
  · intro m hm
    rcases mem_setMember hm with rfl | hm
    · exact hvalue
    · exact h.values m hm

theorem OrderedMembers.object (h : OrderedMembers members) : (Json.object members).Ordered :=
  .object h.keys h.values

/-- Each key stands once. -/
theorem OrderedMembers.nodup (h : OrderedMembers members) : (members.map (·.1)).Nodup :=
  h.keys.imp fun {a b} (hlt : a < b) (heq : a = b) => String.lt_irrefl b (heq ▸ hlt)

theorem Ordered.items {items : List Json} (h : (Json.array items).Ordered) :
    ∀ item ∈ items, item.Ordered := by
  cases h with
  | array hitems => exact hitems

theorem Ordered.orderedMembers (h : (Json.object members).Ordered) : OrderedMembers members := by
  cases h with
  | object hkeys hvalues => exact ⟨hkeys, hvalues⟩

theorem OrderedMembers.member? (h : OrderedMembers members) (hm : Json.member? key members = some value) :
    value.Ordered := by
  obtain ⟨before, after, rfl, -⟩ := List.lookup_eq_some_iff.mp hm
  exact h.values (key, value) (by simp)

end Members

section Reading

variable {stage stage' : Stage} {stack stack' : List Frame} {token : Token}

theorem advance_firstItem (stack : List Frame) (token : Token) :
    advance .firstItem stack token =
      match token, stack with
      | .closeArray, .items _ :: rest => some (.after (.array []), rest)
      | _, _ => advance .value stack token := rfl

theorem advance_firstKey (stack : List Frame) (token : Token) :
    advance .firstKey stack token =
      match token, stack with
      | .closeObject, .members _ :: rest => some (.after (.object []), rest)
      | _, _ => advance .key stack token := rfl

/-- Where a value may come, what is read or opened is ordered. -/
theorem advance_value_ordered (hstack : ∀ frame ∈ stack, frame.Ordered) (htoken : token.Ordered)
    (h : advance .value stack token = some (stage', stack')) :
    stage'.Ordered ∧ ∀ frame ∈ stack', frame.Ordered := by
  cases token with
  | plain value =>
    cases h
    exact ⟨htoken, hstack⟩
  | text s =>
    cases h
    exact ⟨.string s, hstack⟩
  | openArray =>
    obtain ⟨-, he⟩ := Option.ite_none_right_eq_some.mp h
    cases he
    exact ⟨trivial, List.forall_mem_cons.mpr ⟨by simp [Frame.Ordered], hstack⟩⟩
  | openObject =>
    obtain ⟨-, he⟩ := Option.ite_none_right_eq_some.mp h
    cases he
    exact ⟨trivial, List.forall_mem_cons.mpr ⟨OrderedMembers.nil, hstack⟩⟩
  | _ => cases h

theorem advance_key_ordered (hstack : ∀ frame ∈ stack, frame.Ordered)
    (h : advance .key stack token = some (stage', stack')) :
    stage'.Ordered ∧ ∀ frame ∈ stack', frame.Ordered := by
  simp only [advance] at h
  split at h <;> cases h
  obtain ⟨hread, hrest⟩ := List.forall_mem_cons.mp hstack
  exact ⟨trivial, List.forall_mem_cons.mpr ⟨hread, hrest⟩⟩

/-- A token keeps the order of everything read before it. -/
theorem advance_ordered (hstage : stage.Ordered) (hstack : ∀ frame ∈ stack, frame.Ordered)
    (htoken : token.Ordered) (h : advance stage stack token = some (stage', stack')) :
    stage'.Ordered ∧ ∀ frame ∈ stack', frame.Ordered := by
  cases stage with
  | value => exact advance_value_ordered hstack htoken h
  | key => exact advance_key_ordered hstack h
  | firstItem =>
    rw [advance_firstItem] at h
    split at h
    · cases h
      exact ⟨.array (by simp), (List.forall_mem_cons.mp hstack).2⟩
    · exact advance_value_ordered hstack htoken h
  | firstKey =>
    rw [advance_firstKey] at h
    split at h
    · cases h
      exact ⟨OrderedMembers.nil.object, (List.forall_mem_cons.mp hstack).2⟩
    · exact advance_key_ordered hstack h
  | colon =>
    simp only [advance] at h
    split at h <;> cases h
    exact ⟨trivial, hstack⟩
  | after value =>
    simp only [advance] at h
    split at h <;> cases h <;> obtain ⟨hread, hrest⟩ := List.forall_mem_cons.mp hstack
    case h_1 =>
      exact ⟨trivial, List.forall_mem_cons.mpr ⟨List.forall_mem_cons.mpr ⟨hstage, hread⟩, hrest⟩⟩
    case h_2 =>
      refine ⟨.array ?_, hrest⟩
      intro item hitem
      rcases List.mem_cons.mp (List.mem_reverse.mp hitem) with rfl | hitem
      · exact hstage
      · exact hread item hitem
    case h_3 =>
      exact ⟨trivial, List.forall_mem_cons.mpr ⟨OrderedMembers.set hread hstage, hrest⟩⟩
    case h_4 => exact ⟨(OrderedMembers.set hread hstage).object, hrest⟩

/-- A value put together from ordered parts is ordered. -/
theorem assemble_ordered {tokens : List Token} {json : Json} (hstage : stage.Ordered)
    (hstack : ∀ frame ∈ stack, frame.Ordered) (htokens : ∀ token ∈ tokens, token.Ordered)
    (h : assemble stage stack tokens = some json) : json.Ordered := by
  induction tokens generalizing stage stack with
  | nil =>
    unfold assemble at h
    split at h <;> cases h
    exact hstage
  | cons token tokens ih =>
    obtain ⟨htoken, htokens⟩ := List.forall_mem_cons.mp htokens
    rw [assemble] at h
    split at h
    · rename_i hadvance
      obtain ⟨hstage, hstack⟩ := advance_ordered hstage hstack htoken hadvance
      exact ih hstage hstack htokens h
    · cases h

end Reading

section Lexing

theorem Numeral.value?_ordered {n : Numeral} {json : Json} (h : n.value? = some json) :
    json.Ordered := by
  unfold Numeral.value? at h
  simp only at h
  split_ifs at h
  · cases h
    exact .int _
  · cases h
    exact .int _
  all_goals
    obtain ⟨x, -, rfl⟩ := Option.map_eq_some_iff.mp h
    exact .float _

/-- No word is a container. -/
theorem readWord_ordered {cs : List Char} {json : Json} (h : readWord cs = some json) :
    json.Ordered := by
  unfold readWord at h
  split_ifs at h
  · cases h
    exact .null
  · cases h
    exact .bool true
  · cases h
    exact .bool false
  · obtain ⟨numeral, -, hvalue⟩ := Option.bind_eq_some_iff.mp h
    exact Numeral.value?_ordered hvalue

theorem enter_ordered (c : Char) : ∀ token ∈ (enter c).1, token.Ordered := by
  unfold enter
  split_ifs
  · simp
  · simp
  · split
    · rename_i token hmark
      have hmark : token.Ordered := by
        unfold mark? at hmark
        split at hmark <;> cases hmark <;> trivial
      simpa using hmark
    · simp

theorem step_ordered {mode mode' : Mode} {c : Char} {tokens : List Token}
    (h : step mode c = some (tokens, mode')) : ∀ token ∈ tokens, token.Ordered := by
  cases mode with
  | between =>
    have he : enter c = (tokens, mode') := Option.some.inj h
    have hc := enter_ordered c
    rwa [he] at hc
  | word read =>
    rw [step] at h
    split_ifs at h
    · obtain ⟨value, hvalue, he⟩ := Option.map_eq_some_iff.mp h
      cases he
      exact List.forall_mem_cons.mpr ⟨readWord_ordered hvalue, enter_ordered c⟩
    · cases h
      simp
  | quoted read =>
    rw [step] at h
    split_ifs at h
    · obtain ⟨s, -, he⟩ := Option.map_eq_some_iff.mp h
      cases he
      simp [Token.Ordered]
    · cases h
      simp
    · cases h
      simp
  | escaped read =>
    cases h
    simp

theorem finish_ordered {mode : Mode} {tokens : List Token} (h : finish mode = some tokens) :
    ∀ token ∈ tokens, token.Ordered := by
  cases mode with
  | between =>
    cases h
    simp
  | word read =>
    obtain ⟨value, hvalue, rfl⟩ := Option.map_eq_some_iff.mp h
    simpa [Token.Ordered] using readWord_ordered hvalue
  | quoted read => cases h
  | escaped read => cases h

theorem lex_ordered {mode : Mode} {cs : List Char} {tokens : List Token}
    (h : lex mode cs = some tokens) : ∀ token ∈ tokens, token.Ordered := by
  induction cs generalizing mode tokens with
  | nil => exact finish_ordered h
  | cons c cs ih =>
    rw [lex] at h
    split at h
    · cases h
    · rename_i first next hstep
      obtain ⟨rest, hrest, rfl⟩ := Option.map_eq_some_iff.mp h
      exact List.forall_mem_append.mpr ⟨step_ordered hstep, ih hrest⟩

end Lexing

/-- Whatever is read holds each key once. -/
theorem parse?_ordered {text : String} {json : Json} (h : parse? text = some json) :
    json.Ordered := by
  unfold parse? at h
  split at h
  · rename_i tokens htokens
    have hstart : Stage.value.Ordered := trivial
    exact assemble_ordered hstart (by simp) (lex_ordered htokens) h
  · cases h

end AbiBindings.Json
