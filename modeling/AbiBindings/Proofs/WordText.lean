import AbiBindings.Naming.Identifier

namespace AbiBindings

namespace Text

/-- What identifiers are made of: in ASCII letters, digits and underscores, and anything above. -/
def isWordChar (c : Char) : Bool := c.isAlphanum || c = '_' || 0x80 ≤ c.toNat

section Letters

variable {c d : Char}

theorem isWordChar_of_alphanum (h : c.isAlphanum = true) : isWordChar c = true := by
  simp [isWordChar, h]

theorem isWordChar_of_le (h : 0x80 ≤ c.toNat) : isWordChar c = true := by
  simp [isWordChar, h]

theorem isWordChar_of_isAlphanumeric (h : isAlphanumeric c = true) : isWordChar c = true := by
  simp only [isAlphanumeric] at h
  split at h
  · exact isWordChar_of_alphanum h
  · exact isWordChar_of_le (by omega)

/-- A change of ASCII letters is checked on 128 code points. -/
theorem isWordChar_ascii (f : Char → Char)
    (h : ∀ n < 0x80, isWordChar (Char.ofNat n) = true → isWordChar (f (Char.ofNat n)) = true)
    (hc : isWordChar c = true) (hlt : c.toNat < 0x80) : isWordChar (f c) = true := by
  have hn := h c.toNat hlt
  rw [Char.ofNat_toNat] at hn
  exact hn hc

/-- A code point from `low` on that is a character above ASCII. -/
theorem isWordChar_ofNat {code : Nat} (hlow : 0x80 ≤ code) (hv : code.isValidChar) :
    isWordChar (Char.ofNat code) = true := by
  refine isWordChar_of_le ?_
  rw [Char.ofNat, dif_pos hv]
  exact hlow

/-- The table moves to characters above ASCII, or one letter to an ASCII letter. -/
def CaseRange.staysWord (r : CaseRange) : Bool :=
  (0x80 ≤ r.first + r.shift &&
    (r.last + r.shift < 0xd800 || (0xdfff < r.first + r.shift && r.last + r.shift < 0x110000))) ||
  (r.first = r.last && isWordChar (Char.ofNat (r.first + r.shift).toNat))

theorem loweringShifts_stayWord : ∀ r ∈ loweringShifts, r.staysWord = true := by decide +kernel

theorem raisingShifts_stayWord : ∀ r ∈ raisingShifts, r.staysWord = true := by decide +kernel

theorem raisingExpansions_words :
    ∀ entry ∈ raisingExpansions, ∀ code ∈ entry.2, isWordChar (Char.ofNat code) = true := by
  decide +kernel

theorem CaseRange.staysWord_moved {r : CaseRange} {code : Nat} (h : r.staysWord = true)
    (hc : r.contains code = true) : isWordChar (Char.ofNat (code + r.shift).toNat) = true := by
  simp only [staysWord, Bool.or_eq_true, Bool.and_eq_true, decide_eq_true_eq] at h
  simp only [CodeRange.contains, Bool.and_eq_true, decide_eq_true_eq] at hc
  rcases h with ⟨hlow, hvalid⟩ | ⟨hone, hword⟩
  · refine isWordChar_ofNat (by omega) ?_
    simp only [Nat.isValidChar]
    omega
  · have he : code = r.first := by omega
    rwa [he]

/-- A table that stays within words at every range leads to word characters only. -/
theorem isWordChar_shiftIn {table : List CaseRange} {code code' : Nat}
    (ht : ∀ r ∈ table, r.staysWord = true) (h : shiftIn table code = some code') :
    isWordChar (Char.ofNat code') = true := by
  induction table with
  | nil => cases h
  | cons r table ih =>
    simp only [shiftIn] at h
    split at h
    · cases h
    · split at h
      · rename_i hc
        cases h
        exact CaseRange.staysWord_moved (ht r List.mem_cons_self) hc
      · exact ih (fun r hr => ht r (List.mem_cons_of_mem _ hr)) h

theorem isWordChar_lowercase (hc : isWordChar c = true) (hd : d ∈ lowercase c) :
    isWordChar d = true := by
  simp only [lowercase] at hd
  split at hd
  · rename_i hlt
    obtain rfl := List.mem_singleton.mp hd
    exact isWordChar_ascii Char.toLower (by decide +kernel) hc hlt
  · split at hd
    · have hdot : ∀ d ∈ ['i', Char.ofNat 0x307], isWordChar d = true :=
        List.all_eq_true.mp (by decide)
      exact hdot d hd
    · split at hd
      · rename_i code hs
        obtain rfl := List.mem_singleton.mp hd
        exact isWordChar_shiftIn loweringShifts_stayWord hs
      · obtain rfl := List.mem_singleton.mp hd
        exact hc

theorem isWordChar_uppercase (hc : isWordChar c = true) (hd : d ∈ uppercase c) :
    isWordChar d = true := by
  simp only [uppercase] at hd
  split at hd
  · rename_i hlt
    obtain rfl := List.mem_singleton.mp hd
    exact isWordChar_ascii Char.toUpper (by decide +kernel) hc hlt
  · split at hd
    · rename_i codes hl
      obtain ⟨code, hm, rfl⟩ := List.mem_map.mp hd
      obtain ⟨before, after, hsplit, _⟩ := List.lookup_eq_some_iff.mp hl
      exact raisingExpansions_words (c.toNat, codes) (by rw [hsplit]; simp) code hm
    · split at hd
      · rename_i code hs
        obtain rfl := List.mem_singleton.mp hd
        exact isWordChar_shiftIn raisingShifts_stayWord hs
      · obtain rfl := List.mem_singleton.mp hd
        exact hc

end Letters

section Words

variable {cs w : List Char} {c : Char}

theorem not_border_of_mem_splitWhere {isBorder : Char → Bool} {piece : List Char}
    (h : piece ∈ splitWhere isBorder cs) : ∀ c ∈ piece, isBorder c = false := by
  induction cs generalizing piece with
  | nil =>
    obtain rfl := List.mem_singleton.mp h
    simp
  | cons c cs ih =>
    simp only [splitWhere] at h
    split at h
    · rcases List.mem_cons.mp h with rfl | h
      · simp
      · exact ih h
    · rename_i hc
      have hfirst : isBorder c = false := by simpa using hc
      split at h
      · obtain rfl := List.mem_singleton.mp h
        simpa using hfirst
      · rename_i first pieces hs
        rcases List.mem_cons.mp h with rfl | h
        · exact List.forall_mem_cons.mpr ⟨hfirst, ih (hs ▸ List.mem_cons_self)⟩
        · exact ih (hs ▸ List.mem_cons_of_mem _ h)

/-- A word is made of the run's characters and those gathered before. -/
theorem mem_of_mem_splitRun {phase : Phase} {word : List Char} (h : w ∈ splitRun phase word cs) :
    ∀ c ∈ w, c ∈ word ∨ c ∈ cs := by
  fun_induction splitRun phase word cs with
  | case1 => cases h
  | case2 phase word c =>
    obtain rfl := List.mem_singleton.mp h
    intro d hd
    simpa [or_comm] using hd
  | case3 phase word c next rest hcut ih =>
    rcases List.mem_cons.mp h with rfl | h
    · intro d hd
      rcases List.mem_cons.mp (List.mem_reverse.mp hd) with rfl | hd
      · exact .inr List.mem_cons_self
      · exact .inl hd
    · intro d hd
      rcases ih h d hd with hd | hd
      · cases hd
      · exact .inr (List.mem_cons_of_mem _ hd)
  | case4 phase word c next rest hcut hcut' ih =>
    rcases List.mem_cons.mp h with rfl | h
    · intro d hd
      exact .inl (List.mem_reverse.mp hd)
    · intro d hd
      rcases ih h d hd with hd | hd
      · exact .inr (List.mem_singleton.mp hd ▸ List.mem_cons_self)
      · exact .inr (List.mem_cons_of_mem _ hd)
  | case5 phase word c next rest hcut hcut' ih =>
    intro d hd
    rcases ih h d hd with hd | hd
    · rcases List.mem_cons.mp hd with rfl | hd
      · exact .inr List.mem_cons_self
      · exact .inl hd
    · exact .inr (List.mem_cons_of_mem _ hd)

theorem isAlphanumeric_of_mem_words (h : w ∈ words cs) : ∀ c ∈ w, isAlphanumeric c = true := by
  obtain ⟨run, hrun, hw⟩ := List.mem_flatMap.mp h
  intro c hc
  rcases mem_of_mem_splitRun hw c hc with hm | hm
  · cases hm
  · simpa using not_border_of_mem_splitWhere hrun c hm

theorem isWordChar_lowercaseWord (h : ∀ c ∈ w, isWordChar c = true) :
    ∀ c ∈ lowercaseWord w, isWordChar c = true := by
  fun_induction lowercaseWord w with
  | case1 => simp
  | case2 => exact List.all_eq_true.mp (by decide)
  | case3 c hc => exact fun d hd => isWordChar_lowercase (h c List.mem_cons_self) hd
  | case4 c cs hne ih =>
    obtain ⟨hc, hcs⟩ := List.forall_mem_cons.mp h
    intro d hd
    rcases List.mem_append.mp hd with hd | hd
    · exact isWordChar_lowercase hc hd
    · exact ih hcs d hd

theorem isWordChar_capitalizeWord (h : ∀ c ∈ w, isWordChar c = true) :
    ∀ c ∈ capitalizeWord w, isWordChar c = true := by
  cases w with
  | nil => simp [capitalizeWord]
  | cons c cs =>
    obtain ⟨hc, hcs⟩ := List.forall_mem_cons.mp h
    intro d hd
    rcases List.mem_append.mp hd with hd | hd
    · exact isWordChar_uppercase hc hd
    · exact isWordChar_lowercaseWord hcs d hd

end Words

end Text

end AbiBindings
