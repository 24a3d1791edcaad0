import AbiBindings.Proofs.Carries
import AbiBindings.Proofs.Coherence
import AbiBindings.Render.Record

namespace AbiBindings

section Placement

variable {named : List (String × Parameter × Resolved)} (topic data : Nat)

/-- Just the indexed inputs are placed among the topics. -/
theorem placeFields_isTopic :
    (placeFields topic data named).map (fun f => f.source.isTopic) =
      named.map fun x => x.2.1.indexed := by
  induction named generalizing topic data with
  | nil => rfl
  | cons entry named ih =>
    obtain ⟨name, p, type⟩ := entry
    cases hi : p.indexed with
    | false =>
      simp only [placeFields, hi, Bool.false_eq_true, ↓reduceIte, List.map_cons, ih]
      rfl
    | true =>
      simp only [placeFields, hi, ↓reduceIte, List.map_cons, ih]
      rfl

/-- Topics are handed out one by one, to the indexed inputs only. -/
theorem placeFields_topics :
    ((placeFields topic data named).filter fun f => f.source.isTopic).map (·.source) =
      (List.range' topic (named.countP fun x => x.2.1.indexed)).map .topic := by
  induction named generalizing topic data with
  | nil => rfl
  | cons entry named ih =>
    obtain ⟨name, p, type⟩ := entry
    cases hi : p.indexed with
    | false =>
      rw [List.countP_cons_of_neg (by simp [hi]), ← ih topic (data + 1)]
      simp only [placeFields, hi, Bool.false_eq_true, ↓reduceIte]
      rfl
    | true =>
      rw [List.countP_cons_of_pos (by simp [hi]), List.range'_succ, List.map_cons,
        ← ih (topic + 1) data]
      simp only [placeFields, hi, ↓reduceIte]
      rfl

/-- Places in the data are handed out one by one, to the other inputs only. -/
theorem placeFields_data :
    ((placeFields topic data named).filter fun f => !f.source.isTopic).map (·.source) =
      (List.range' data (named.countP fun x => !x.2.1.indexed)).map .data := by
  induction named generalizing topic data with
  | nil => rfl
  | cons entry named ih =>
    obtain ⟨name, p, type⟩ := entry
    cases hi : p.indexed with
    | false =>
      rw [List.countP_cons_of_pos (by simp [hi]), List.range'_succ, List.map_cons,
        ← ih topic (data + 1)]
      simp only [placeFields, hi, Bool.false_eq_true, ↓reduceIte]
      rfl
    | true =>
      rw [List.countP_cons_of_neg (by simp [hi]), ← ih (topic + 1) data]
      simp only [placeFields, hi, ↓reduceIte]
      rfl

end Placement

/-- Entries that agree with a second list on a test are chosen alike by either side. -/
theorem filter_zip_snd {α β : Type} {p : α → Bool} {q : β → Bool} {xs : List α} {ys : List β}
    (h : ys.map q = xs.map p) : ((xs.zip ys).filter fun x => p x.1).map (·.2) = ys.filter q := by
  induction xs generalizing ys with
  | nil =>
    rw [List.map_nil, List.map_eq_nil_iff] at h
    rw [h]
    rfl
  | cons x xs ih =>
    cases ys with
    | nil => rfl
    | cons y ys =>
      simp only [List.map_cons, List.cons.injEq] at h
      rw [List.zip_cons_cons, List.filter_cons, List.filter_cons, h.1]
      cases p x with
      | false => simpa using ih h.2
      | true => simpa using ih h.2

theorem countP_eq_of_map {α β : Type} {p : α → Bool} {q : β → Bool} {xs : List α} {ys : List β}
    (h : ys.map q = xs.map p) : ys.countP q = xs.countP p := by
  have hc := congrArg (List.countP id) h
  simpa only [List.countP_map, Function.id_comp] using hc

/-- An event that was not turned down has room for its indexed inputs. -/
theorem Declaration.topics_le {d : Declaration} (hk : d.kind = .event)
    (h : d.checkIndexed = .ok ()) :
    d.firstTopic + d.inputs.countP (·.indexed) ≤ maxTopics := by
  have hle : d.inputs.countP (·.indexed) ≤ d.indexedLimit := by
    simp only [checkIndexed, hk, true_and] at h
    split at h
    · cases h
    · rename_i hle
      exact Nat.not_lt.mp hle
  have hlimit : d.firstTopic + d.indexedLimit = maxTopics := by
    rw [firstTopic, indexedLimit]
    cases d.anonymous <;> rfl
  omega

/-- How an event lays out the inputs of its declaration. Each has a field, and of a log the indexed
ones take one topic after the other, and the others one value of the data after the other. -/
structure EventBinding.LaysOut (e : EventBinding) (d : Declaration) : Prop where
  length : e.fields.length = d.inputs.length
  topics : ((d.inputs.zip e.fields).filter fun x => x.1.indexed).map (·.2.source) =
    (List.range' d.firstTopic (d.inputs.countP (·.indexed))).map .topic
  data : ((d.inputs.zip e.fields).filter fun x => !x.1.indexed).map (·.2.source) =
    (List.range (d.inputs.countP fun p => !p.indexed)).map .data
  topicCount : e.topicCount = d.firstTopic + d.inputs.countP (·.indexed)
  topicLimit : e.topicCount ≤ 4
  dataFields : ∀ (i : Nat) f, e.dataFields[i]? = some f ↔ f ∈ e.fields ∧ f.source = .data i

namespace EventBinding

variable {e : EventBinding} {d : Declaration} {f : EventField}

theorem mem_dataFields_of_source {i : Nat} (hf : f ∈ e.fields) (hs : f.source = .data i) :
    f ∈ e.dataFields := by
  refine List.mem_filter.mpr ⟨hf, ?_⟩
  rw [hs]
  rfl

/-- Fields numbered in order are found at their numbers. -/
theorem dataFields_getElem?_iff {count : Nat}
    (h : e.dataFields.map (·.source) = (List.range count).map .data) (i : Nat) :
    e.dataFields[i]? = some f ↔ f ∈ e.fields ∧ f.source = .data i := by
  have hat : ∀ {j : Nat} {f : EventField}, e.dataFields[j]? = some f → f.source = .data j := by
    intro j f hj
    have hsource := congrArg (·[j]?) h
    simp only [List.getElem?_map, hj, Option.map_some] at hsource
    obtain ⟨k, hk, hd⟩ := Option.map_eq_some_iff.mp hsource.symm
    obtain ⟨_, hkj⟩ := List.getElem?_eq_some_iff.mp hk
    rw [List.getElem_range] at hkj
    rw [← hd, hkj]
  constructor
  · intro hi
    exact ⟨(List.mem_filter.mp (List.mem_of_getElem? hi)).1, hat hi⟩
  · rintro ⟨hf, hs⟩
    obtain ⟨j, hj⟩ := List.mem_iff_getElem?.mp (mem_dataFields_of_source hf hs)
    have hij : FieldSource.data i = .data j := hs.symm.trans (hat hj)
    cases hij
    exact hj

/-- Fields placed for the inputs of a declaration lay it out. -/
theorem laysOut_of_placed {named : List (String × Parameter × Resolved)}
    (ha : e.anonymous = d.anonymous) (hinputs : named.map (·.2.1) = d.inputs)
    (hfields : e.fields = placeFields d.firstTopic 0 named)
    (hlimit : d.firstTopic + d.inputs.countP (·.indexed) ≤ maxTopics) : e.LaysOut d := by
  have hnamed : ∀ test : Parameter → Bool,
      named.countP (fun x => test x.2.1) = d.inputs.countP test := by
    intro test
    rw [← hinputs, List.countP_map]
    rfl
  have hside : e.fields.map (fun f => f.source.isTopic) = d.inputs.map (·.indexed) := by
    rw [hfields, placeFields_isTopic, ← hinputs, List.map_map]
    rfl
  have hother : e.fields.map (fun f => !f.source.isTopic) = d.inputs.map fun p => !p.indexed := by
    have hnot := congrArg (List.map Bool.not) hside
    simpa only [List.map_map, Function.comp_def] using hnot
  have hdata : e.dataFields.map (·.source) =
      (List.range (d.inputs.countP fun p => !p.indexed)).map .data := by
    rw [dataFields, hfields, placeFields_data, hnamed fun p => !p.indexed, List.range_eq_range']
  have hcount : e.topicCount = d.firstTopic + d.inputs.countP (·.indexed) := by
    rw [topicCount, countP_eq_of_map hside, Declaration.firstTopic, ha]
    cases d.anonymous with
    | false => exact Nat.add_comm _ 1
    | true => exact (Nat.zero_add _).symm
  refine ⟨?_, ?_, ?_, hcount, hcount ▸ hlimit, ?_⟩
  · simpa using congrArg List.length hside
  · rw [map_of_map (filter_zip_snd hside) (·.source), hfields, placeFields_topics,
      hnamed (·.indexed)]
  · rw [map_of_map (filter_zip_snd hother) (·.source)]
    exact hdata
  · intro i f
    exact dataFields_getElem?_iff hdata i

/-- A topic that a field is read from comes after the signature's, and is among those counted. -/
theorem LaysOut.topic_bounds (h : e.LaysOut d) {i : Nat} (hf : f ∈ e.fields)
    (hs : f.source = .topic i) : d.firstTopic ≤ i ∧ i < e.topicCount := by
  rw [← List.map_snd_zip (Nat.le_of_eq h.length)] at hf
  obtain ⟨⟨p, f⟩, hx, rfl⟩ := List.mem_map.mp hf
  have hmem : FieldSource.topic i ∈
      (List.range' d.firstTopic (d.inputs.countP (·.indexed))).map .topic := by
    cases hi : p.indexed with
    | true =>
      rw [← h.topics, ← hs]
      exact List.mem_map_of_mem (List.mem_filter.mpr ⟨hx, hi⟩)
    | false =>
      -- A field of another input would be read from the data.
      have hdata : f.source ∈ (List.range (d.inputs.countP fun p => !p.indexed)).map .data := by
        rw [← h.data]
        exact List.mem_map_of_mem (List.mem_filter.mpr ⟨hx, by rw [hi]; rfl⟩)
      obtain ⟨j, _, hj⟩ := List.mem_map.mp hdata
      cases hj.trans hs
  obtain ⟨j, hj, he⟩ := List.mem_map.mp hmem
  cases he
  rw [h.topicCount]
  exact List.mem_range'_1.mp hj

end EventBinding

namespace Render

/-- What decoding a log writes, given how many topics it has, the variables for the values of its
data beside what describes their types, and the fields with what reads them. -/
def decodeLogSteps (topicCount : Nat) (expected : String) (locals params : List String)
    (fields : List (String × String)) : List Step :=
  let types := "&[" ++ commaList params ++ "]"
  let decode := "rt::decode_output::<" ++ toString params.length ++ ">(" ++ types
    ++ ", &log.data)?;"
  .line ("rt::check_topics(log, " ++ toString topicCount ++ ", " ++ expected ++ ")?;")
    :: (if locals.isEmpty then [] else [.line ("let [" ++ commaList locals ++ "] = " ++ decode)])
    ++ selfLiteral fields

/-- How decoding a log reads a field. A topic is read by its place, from the first that an input can
have up to the number of topics; a value of the data is read from the variable that stands where the
type of the field does. -/
inductive Reads (names : StructNames) (firstTopic topicCount : Nat) (locals params : List String) :
    EventField → String → Prop
  | hash {f : EventField} {i : Nat} (hs : f.source = .topic i) (ht : f.type.target = .hash)
    (hfirst : firstTopic ≤ i) (hlast : i < topicCount) :
    Reads names firstTopic topicCount locals params f ("log.topics[" ++ toString i ++ "]")
  | topic {f : EventField} {i : Nat} (hs : f.source = .topic i) (ht : f.type.target ≠ .hash)
    (hfirst : firstTopic ≤ i) (hlast : i < topicCount) :
    Reads names firstTopic topicCount locals params f
      (fromToken names f.type.wire f.type.target ("rt::decode_topic(&log.topics[" ++ toString i
        ++ "], &" ++ paramType names f.type.wire ++ ")?") 0 ++ "?")
  | data {f : EventField} {i : Nat} (hs : f.source = .data i)
    (hlocal : locals[i]? = some ("data" ++ toString i))
    (hparam : params[i]? = some (paramType names f.type.wire)) :
    Reads names firstTopic topicCount locals params f
      (fromToken names f.type.wire f.type.target ("data" ++ toString i) 0 ++ "?")

section Reading

variable {names : StructNames} {e : EventBinding} {d : Declaration}

theorem numberedNames_nodup (label : String) (count : Nat) : (numberedNames label count).Nodup :=
  List.Nodup.map (fun _ _ h => labelled_injective h) List.nodup_range

/-- The code that decodes a log, by the parts of it that depend on the event. -/
theorem decodeLog_eq (names : StructNames) (e : EventBinding) :
    decodeLog names e =
      decodeLogSteps e.topicCount (if e.anonymous then "None" else "Some(&Self::TOPIC)")
        (numberedNames "data" e.dataFields.length)
        (e.dataFields.map fun f => paramType names f.type.wire)
        (e.fields.map fun f => (f.name, eventFieldValue names f)) := by
  cases hd : e.dataFields with
  | nil =>
    simp only [decodeLog, decodeLogSteps, hd]
    rfl
  | cons f fs =>
    have hlocals : (numberedNames "data" (f :: fs).length).isEmpty = false := by
      rw [numberedNames, List.length_cons, List.range_succ_eq_map]
      rfl
    simp only [decodeLog, decodeLogSteps, paramTypes, bindLocals, hd, hlocals, List.isEmpty_cons,
      List.length_map, List.map_map]
    rfl

/-- A field is read from where the layout puts it. -/
theorem reads_eventFieldValue (h : e.LaysOut d) {f : EventField} (hf : f ∈ e.fields) :
    Reads names d.firstTopic e.topicCount (numberedNames "data" e.dataFields.length)
      (e.dataFields.map fun f => paramType names f.type.wire) f (eventFieldValue names f) := by
  cases hs : f.source with
  | topic i =>
    obtain ⟨hfirst, hlast⟩ := h.topic_bounds hf hs
    by_cases ht : f.type.target = .hash
    · have hv : eventFieldValue names f = "log.topics[" ++ toString i ++ "]" := by
        simp only [eventFieldValue, hs, ht, ↓reduceIte]
      rw [hv]
      exact .hash hs ht hfirst hlast
    · have hv : eventFieldValue names f =
          fromToken names f.type.wire f.type.target ("rt::decode_topic(&log.topics[" ++ toString i
            ++ "], &" ++ paramType names f.type.wire ++ ")?") 0 ++ "?" := by
        simp only [eventFieldValue, hs, ht, ↓reduceIte]
      rw [hv]
      exact .topic hs ht hfirst hlast
  | data i =>
    have hat := (h.dataFields i f).mpr ⟨hf, hs⟩
    obtain ⟨hi, _⟩ := List.getElem?_eq_some_iff.mp hat
    have hv : eventFieldValue names f =
        fromToken names f.type.wire f.type.target ("data" ++ toString i) 0 ++ "?" := by
      simp only [eventFieldValue, hs]
    rw [hv]
    refine .data hs ?_ ?_
    · rw [numberedNames, List.getElem?_map, List.getElem?_range hi]
      rfl
    · rw [List.getElem?_map, hat]
      rfl

end Reading

end Render

namespace ContractBindings.Compiled

variable {b : ContractBindings} {mode : Representation} {ds : List Declaration}
variable {bytecode : Option String} {rs : List ResolvedDeclaration} {g : Gathered}

/-- An event lays out the inputs of the declaration that first has its signature. -/
theorem event_laysOut (h : b.Compiled mode ds bytecode rs g) {e : EventBinding}
    (he : e ∈ b.events) : ∃ place d, FirstSigned ds .event place d e.signature ∧
      e.Carries mode (structKeys b.structs) d ∧ e.LaysOut d := by
  obtain ⟨r, hr, hk, hface⟩ := h.event_face he
  have hs := h.sound r hr
  have hcarries := EventBinding.carries_of_face hs hface
  obtain ⟨place, hfirst⟩ := h.firstSigned hr hk rfl
  obtain ⟨named, _, hinputs, hfields⟩ := eventFields_named hs.inputs.length
  have hparams : named.map (·.2.1) = r.declaration.inputs :=
    (map_of_map hinputs (·.1)).trans (List.map_fst_zip (Nat.le_of_eq hs.inputs.length.symm))
  have hplaced : e.fields = placeFields r.declaration.firstTopic 0 named :=
    (congrArg (·.fields) hface).trans hfields
  have hlimit := Declaration.topics_le hk (resolveDeclarations_checked h.resolved r hr)
  have hsig : e.signature = r.signature := congrArg (·.signature) hface
  exact ⟨place, r.declaration, hsig ▸ hfirst, hcarries,
    EventBinding.laysOut_of_placed hcarries.anonymous hparams hplaced hlimit⟩

end ContractBindings.Compiled

open Render in
/-- An event has one field for each input of its declaration, and its fields account for the topics
and the values of a log one by one. Decoding a log counts the topics, binds each value of the data
once and beside its own type, and reads every field from where it was placed. -/
theorem event_layout {options : Options} {contractName : String} {modulePath : ModulePath}
    {ds : List Declaration} {bytecode : Option String} {b : ContractBindings}
    (h : (compileDeclarations options contractName modulePath ds bytecode).result = .ok b) :
    ∀ e ∈ b.events, ∃ place d, FirstSigned ds .event place d e.signature ∧
      e.Carries options.representation (structKeys b.structs) d ∧ e.LaysOut d ∧
      ∀ names, ∃ locals params values,
        decodeLog names e = decodeLogSteps e.topicCount
          (if e.anonymous then "None" else "Some(&Self::TOPIC)") locals params
          ((e.fields.map (·.name)).zip values) ∧
        locals.Nodup ∧ params.length = locals.length ∧
        List.Forall₂ (Reads names d.firstTopic e.topicCount locals params) e.fields values := by
  obtain ⟨rs, g, hc⟩ := compileDeclarations_ok h
  intro e he
  obtain ⟨place, d, hfirst, hcarries, hlaid⟩ := hc.event_laysOut he
  refine ⟨place, d, hfirst, hcarries, hlaid, ?_⟩
  intro names
  refine ⟨numberedNames "data" e.dataFields.length,
    e.dataFields.map fun f => paramType names f.type.wire,
    e.fields.map (eventFieldValue names), ?_, numberedNames_nodup _ _, ?_, ?_⟩
  · rw [decodeLog_eq, List.zip_map']
  · simp [numberedNames]
  · rw [List.forall₂_map_right_iff, List.forall₂_same]
    intro f hf
    exact reads_eventFieldValue hlaid hf

/-- An anonymous event fills all the topics around a value of the data. -/
theorem event_layout_auction : ∃ b, auctionBindings = .ok b ∧ ∃ e ∈ b.events,
    e.fields.map (·.source) = [.topic 0, .topic 1, .data 0, .topic 2, .topic 3] ∧
    ∃ place d, FirstSigned auction .event place d e.signature ∧ e.LaysOut d := by
  obtain ⟨b, hb, hview⟩ := auctionBindings_ok
  have hevents := congrArg (fun v => v.2.map fun fields => fields.map (·.2)) hview
  simp only [List.map_map, Function.comp_def] at hevents
  have hm : [.topic 0, .topic 1, .data 0, .topic 2, .topic 3] ∈
      b.events.map fun e => e.fields.map (·.source) := by
    rw [hevents]
    exact List.mem_cons_of_mem _ (List.mem_singleton_self _)
  obtain ⟨e, he, hsources⟩ := List.mem_map.mp hm
  obtain ⟨place, d, hfirst, _, hlaid, _⟩ := event_layout hb e he
  exact ⟨b, hb, e, he, hsources, place, d, hfirst, hlaid⟩

end AbiBindings
