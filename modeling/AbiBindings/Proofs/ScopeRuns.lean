import AbiBindings.Proofs.Renamings
import Mathlib.Data.Finset.Card
import Mathlib.Order.Bounds.Defs

namespace AbiBindings.Scope

/-- A request for a name: for just this one, for one that may be numbered, or for one that may have
its position added. -/
inductive Request where
  | exact (name : String)
  | numbered (base separator : String)
  | positional (base : String) (position : Nat)

abbrev Request.Answer : Request → Type
  | .exact _ => Bool
  | .numbered _ _ => String
  | .positional _ _ => String × Bool

def answer (s : Scope) : (r : Request) → r.Answer × Scope
  | .exact name => s.tryClaim name
  | .numbered base separator => s.claimNumbered base separator
  | .positional base position => s.claimPositional base position

/-- Requests made one after another, each with its answer, and the scope they leave. -/
def answerAll (s : Scope) : List Request → List ((r : Request) × r.Answer) × Scope
  | [] => ([], s)
  | r :: rs =>
    let (a, s) := s.answer r
    let (answers, s) := s.answerAll rs
    (⟨r, a⟩ :: answers, s)

/-- The name that a request takes. There is none when just this one was asked for and was in use. -/
def Request.granted : (r : Request) → r.Answer → List String
  | .exact name, (free : Bool) => if free then [name] else []
  | .numbered _ _, name => [name]
  | .positional _ _, (name, _) => [name]

def grantedNames (answers : List ((r : Request) × r.Answer)) : List String :=
  answers.flatMap fun a => a.1.granted a.2

section Search

variable {candidate : Nat → String} {s s' : Scope} {base separator name : String} {k : Nat}
variable {result result' : String × Scope}

theorem tryClaim_of_mem (h : name ∈ s.taken) : s.tryClaim name = (false, s) := if_pos h

theorem tryClaim_of_not_mem (h : name ∉ s.taken) :
    s.tryClaim name = (true, ⟨name :: s.taken⟩) := if_neg h

/-- The search as a loop without a bound, which asks for one candidate after another until it is
granted one. Where all of them are in use there is no such search, since it would not end. -/
inductive Searches (candidate : Nat → String) : Scope → Nat → String × Scope → Prop
  | granted {s s' : Scope} {k : Nat} (free : s.tryClaim (candidate k) = (true, s')) :
      Searches candidate s k (candidate k, s')
  | refused {s s' : Scope} {k : Nat} {result : String × Scope}
      (used : s.tryClaim (candidate k) = (false, s'))
      (next : Searches candidate s' (k + 1) result) : Searches candidate s k result

theorem Searches.unique (h : Searches candidate s k result) (h' : Searches candidate s k result') :
    result = result' := by
  induction h with
  | granted free =>
    cases h' with
    | granted free' =>
      rw [free] at free'
      cases free'
      rfl
    | refused used' _ =>
      rw [free] at used'
      cases used'
  | refused used _ ih =>
    cases h' with
    | granted free' =>
      rw [used] at free'
      cases free'
    | refused used' next' =>
      rw [used] at used'
      cases used'
      exact ih next'

/-- A bounded search that finds a free candidate has gone the way of the loop. -/
theorem searches_firstFree {count : Nat}
    (h : candidate (firstFree s.taken candidate count k) ∉ s.taken) :
    Searches candidate s k (candidate (firstFree s.taken candidate count k),
      ⟨candidate (firstFree s.taken candidate count k) :: s.taken⟩) := by
  induction count generalizing k with
  | zero => exact .granted (tryClaim_of_not_mem h)
  | succ count ih =>
    by_cases hm : candidate k ∈ s.taken
    · simp only [firstFree, if_pos hm] at h ⊢
      exact .refused (tryClaim_of_mem hm) (ih h)
    · simp only [firstFree, if_neg hm] at h ⊢
      exact .granted (tryClaim_of_not_mem hm)

theorem claimNumbered_of_not_mem (h : base ∉ s.taken) :
    s.claimNumbered base separator = (base, ⟨base :: s.taken⟩) := by
  simp only [claimNumbered, tryClaim_of_not_mem h]

/-- The bounded search ends where the loop does. -/
theorem claimNumbered_searches (h : base ∈ s.taken) (separator : String) :
    Searches (numbered base separator) s 2 (s.claimNumbered base separator) := by
  simp only [claimNumbered, tryClaim_of_mem h]
  exact searches_firstFree (firstFree_numbered s.taken base separator)

/-- The candidates passed over are in use and so is the base, which is none of them. -/
theorem number_le_card (hb : base ∈ s.taken)
    (h : ∀ j, 2 ≤ j → j < k → numbered base separator j ∈ s.taken) :
    k ≤ s.taken.toFinset.card + 1 := by
  have hmem : base ∈ s.taken.dedup := List.mem_dedup.mpr hb
  have hother : ∀ j, numbered base separator j ≠ base := by
    intro j
    rw [numbered, String.append_assoc]
    apply append_ne_self
    simp
  have hcovers : ∀ j, 2 ≤ j → j < 2 + (k - 2) →
      numbered base separator j ∈ s.taken.dedup.erase base := by
    intro j hj hjk
    exact (List.mem_erase_of_ne (hother j)).mpr (List.mem_dedup.mpr (h j hj (by omega)))
  have hcovered := covered_le (fun i j => numbered_injective) hcovers
  rw [List.length_erase_of_mem hmem] at hcovered
  have hpos := List.length_pos_of_mem hmem
  rw [List.card_toFinset]
  omega

end Search

section Requests

variable {s s' : Scope} {r : Request}

/-- A request that is carried out with the loop and ends. -/
inductive Request.Ends : (r : Request) → Scope → r.Answer × Scope → Prop
  | exact {s : Scope} {name : String} : Ends (.exact name) s (s.tryClaim name)
  | base {s s' : Scope} {base separator : String} (free : s.tryClaim base = (true, s')) :
      Ends (.numbered base separator) s (base, s')
  | numbered {s s' : Scope} {base separator : String} {result : String × Scope}
      (used : s.tryClaim base = (false, s'))
      (search : Searches (Scope.numbered base separator) s' 2 result) :
      Ends (.numbered base separator) s result
  | own {s s' : Scope} {base : String} {position : Nat} (free : s.tryClaim base = (true, s')) :
      Ends (.positional base position) s ((base, false), s')
  | positional {s s' s'' : Scope} {base name : String} {position : Nat}
      (used : s.tryClaim base = (false, s'))
      (instead : Ends (.numbered (base ++ "_" ++ toString position) "_") s' (name, s'')) :
      Ends (.positional base position) s ((name, true), s'')

theorem Request.ends_numbered (s : Scope) (base separator : String) :
    Request.Ends (.numbered base separator) s (s.claimNumbered base separator) := by
  by_cases hm : base ∈ s.taken
  · exact .numbered (tryClaim_of_mem hm) (claimNumbered_searches hm separator)
  · rw [claimNumbered_of_not_mem hm]
    exact .base (tryClaim_of_not_mem hm)

theorem Request.ends_answer (s : Scope) (r : Request) : r.Ends s (s.answer r) := by
  cases r with
  | exact name => exact .exact
  | numbered base separator => exact Request.ends_numbered s base separator
  | positional base position =>
    by_cases hm : base ∈ s.taken
    · simp only [answer, claimPositional, tryClaim_of_mem hm]
      exact .positional (tryClaim_of_mem hm) (Request.ends_numbered s _ _)
    · simp only [answer, claimPositional, tryClaim_of_not_mem hm]
      exact .own (tryClaim_of_not_mem hm)

theorem Request.Ends.answer_eq {result : r.Answer × Scope} (h : r.Ends s result) :
    s.answer r = result := by
  induction h with
  | exact => rfl
  | base free => simp only [answer, claimNumbered, free]
  | numbered used search =>
    obtain ⟨hm, rfl⟩ := tryClaim_false used
    exact (claimNumbered_searches hm _).unique search
  | own free => simp only [answer, claimPositional, free]
  | positional used _ ih =>
    obtain ⟨_, rfl⟩ := tryClaim_false used
    simp only [answer] at ih
    simp only [answer, claimPositional, used, ih]

/-- How the names in use settle the answer to a request. Of the numbers from two on, the least whose
candidate is free counts, and it is at most one more than there are names in use. -/
def Request.Settled (s : Scope) : (r : Request) → r.Answer × Scope → Prop
  | .exact name, ((free : Bool), s') => (free = true ↔ name ∉ s.taken) ∧ (free = false → s' = s)
  | .numbered base separator, ((name : String), _) =>
    (base ∉ s.taken → name = base) ∧
    (base ∈ s.taken → ∃ k, name = base ++ separator ++ toString k ∧
      IsLeast {k | 2 ≤ k ∧ base ++ separator ++ toString k ∉ s.taken} k ∧
      k ≤ s.taken.toFinset.card + 1)
  | .positional base position, (((name : String), (renamed : Bool)), s') =>
    (base ∉ s.taken → name = base ∧ renamed = false) ∧
    (base ∈ s.taken →
      (name, s') = s.claimNumbered (base ++ "_" ++ toString position) "_" ∧ renamed = true) ∧
    (renamed = true ↔ name ≠ base)

theorem Request.settled_exact (s : Scope) (name : String) :
    Request.Settled s (.exact name) (s.tryClaim name) := by
  by_cases hm : name ∈ s.taken
  · rw [tryClaim_of_mem hm]
    exact ⟨⟨nofun, fun hfree => absurd hm hfree⟩, fun _ => rfl⟩
  · rw [tryClaim_of_not_mem hm]
    exact ⟨⟨fun _ => hm, fun _ => rfl⟩, nofun⟩

theorem Request.settled_numbered (s : Scope) (base separator : String) :
    Request.Settled s (.numbered base separator) (s.claimNumbered base separator) := by
  obtain ⟨⟨name, s'⟩, h⟩ : ∃ p, s.claimNumbered base separator = p := ⟨_, rfl⟩
  obtain ⟨_, hnew, ⟨hfree, rfl⟩ | ⟨hm, k, hk, rfl, hleast⟩⟩ := claimNumbered_cases h
  · rw [h]
    exact ⟨fun _ => rfl, fun hm => absurd hm hfree⟩
  · rw [h]
    refine ⟨fun hfree => absurd hm hfree, fun _ => ⟨k, rfl, ⟨⟨hk, hnew⟩, ?_⟩, ?_⟩⟩
    · rintro j ⟨hj, hfree⟩
      by_contra hjk
      exact hfree (hleast j hj (Nat.lt_of_not_le hjk))
    · exact number_le_card hm hleast

theorem Request.settled_positional (s : Scope) (base : String) (position : Nat) :
    Request.Settled s (.positional base position) (s.claimPositional base position) := by
  obtain ⟨⟨⟨name, renamed⟩, s'⟩, h⟩ : ∃ p, s.claimPositional base position = p := ⟨_, rfl⟩
  have hflag := claimPositional_renamed h
  rw [h]
  simp only [claimPositional] at h
  by_cases hm : base ∈ s.taken
  · simp only [tryClaim_of_mem hm] at h
    cases h
    exact ⟨fun hfree => absurd hm hfree, fun _ => ⟨rfl, rfl⟩, hflag⟩
  · simp only [tryClaim_of_not_mem hm] at h
    cases h
    exact ⟨fun _ => ⟨rfl, rfl⟩, fun hm' => absurd hm' hm, hflag⟩

theorem Request.settled_answer (s : Scope) (r : Request) : r.Settled s (s.answer r) := by
  cases r with
  | exact name => exact Request.settled_exact s name
  | numbered base separator => exact Request.settled_numbered s base separator
  | positional base position => exact Request.settled_positional s base position

theorem answer_grants (s : Scope) (r : Request) :
    s.Grants (r.granted (s.answer r).1) (s.answer r).2 := by
  cases r with
  | exact name =>
    by_cases hm : name ∈ s.taken
    · simp only [answer, tryClaim_of_mem hm]
      exact .none s
    · simp only [answer, tryClaim_of_not_mem hm]
      exact .one hm
  | numbered base separator => exact claimNumbered_grants rfl
  | positional base position => exact claimPositional_grants rfl

theorem answerAll_grants (s : Scope) (rs : List Request) :
    s.Grants (grantedNames (s.answerAll rs).1) (s.answerAll rs).2 := by
  induction rs generalizing s with
  | nil => exact .none s
  | cons r rs ih => exact (answer_grants s r).append (ih _)

/-- A last request is answered in the scope that the others leave. -/
theorem answerAll_concat (s : Scope) (rs : List Request) (r : Request) :
    s.answerAll (rs ++ [r]) =
      ((s.answerAll rs).1 ++ [⟨r, ((s.answerAll rs).2.answer r).1⟩],
        ((s.answerAll rs).2.answer r).2) := by
  induction rs generalizing s with
  | nil => rfl
  | cons r' rs ih => simp only [List.cons_append, answerAll, ih]

end Requests

/-- Whatever is asked of a scope, the names it grants are distinct, none of them was reserved, and they
and the reserved ones are just the names in use. Any request made next ends, and in one way only, also
when its search has no bound, and the names in use by then settle how it is answered. -/
theorem requests_settled (reserved : List String) (requests : List Request) (next : Request) :
    let run := (reserving reserved).answerAll requests
    let names := grantedNames run.1
    let s := run.2
    names.Nodup ∧ (∀ n ∈ names, n ∉ reserved) ∧
      (∀ n, n ∈ s.taken ↔ n ∈ reserved ∨ n ∈ names) ∧
      (∀ result, next.Ends s result ↔ result = s.answer next) ∧
      next.Settled s (s.answer next) ∧
      (reserving reserved).answerAll (requests ++ [next]) =
        (run.1 ++ [⟨next, (s.answer next).1⟩], (s.answer next).2) := by
  intro run names s
  have hgrants : (reserving reserved).Grants names s := answerAll_grants _ requests
  refine ⟨hgrants.nodup, hgrants.fresh, ?_, ?_, Request.settled_answer s next,
    answerAll_concat _ requests next⟩
  · intro n
    rw [hgrants.taken.mem_iff, List.mem_append, or_comm]
    rfl
  · intro result
    constructor
    · intro hends
      exact hends.answer_eq.symm
    · rintro rfl
      exact Request.ends_answer s next

/-- A base that looks like a numbered name, and a name asked for twice. -/
example : grantedNames ((reserving ["a"]).answerAll [.exact "a_2_2", .positional "a" 2, .exact "a_2",
    .positional "a" 2, .numbered "a" "_2_"]).1 = ["a_2_2", "a_2", "a_2_3", "a_2_4"] := by decide

end AbiBindings.Scope
